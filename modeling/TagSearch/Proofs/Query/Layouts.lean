import TagSearch.Proofs.Query.Alternatives
import TagSearch.Proofs.Query.Lexemes

/-!
# Queries are read as they are laid out

A text is read as alternatives if it is a layout of them, and every other text is refused with the
place of an error. One direction goes through the text from the left and lays out what has been read
so far; the other goes through the layout, with what is read behind each part of it.

* `layout_of_read`: what is read is laid out.
* `read_of_layout`: what is laid out is read.
* `parse_eq_ok_iff`: both, for the expression of a query.
-/

namespace TagSearch

/-! ## Steps of the reader -/

section Steps

variable {n : Nat} {l : Literal} {a : Atom} {xs : List Lexeme}

theorem readTerm_nil (negated : Bool) : readTerm negated [] = .error none := rfl

theorem readTerm_atom (negated : Bool) :
    readTerm negated (⟨n, .atom a⟩ :: xs) = readMore ⟨negated, n, a⟩ xs := rfl

theorem readTerm_minus : readTerm false (⟨n, .minus⟩ :: xs) = readTerm true xs := rfl

theorem readMore_nil : readMore l [] = .ok (.single (.single l)) := rfl

theorem readMore_bar : readMore l (⟨n, .bar⟩ :: xs) =
    (readTerm false xs).map (NonemptyList.push (.single l)) := rfl

theorem readMore_atom :
    readMore l (⟨n, .atom a⟩ :: xs) =
      (readMore ⟨false, n, a⟩ xs).map (Alternatives.pushFirst l) := rfl

theorem readMore_minus :
    readMore l (⟨n, .minus⟩ :: xs) = (readTerm true xs).map (Alternatives.pushFirst l) := rfl

/-- Where a term may begin, what follows a literal is read as a term. -/
theorem readMore_of_readTerm {r : Alternatives} (h : readTerm false xs = .ok r) :
    readMore l xs = .ok (r.pushFirst l) := by
  cases xs with
  | nil => cases h
  | cons x xs =>
    obtain ⟨n, token⟩ := x
    cases token with
    | atom a =>
      rw [readTerm_atom] at h
      rw [readMore_atom, h]
      rfl
    | minus =>
      rw [readTerm_minus] at h
      rw [readMore_minus, h]
      rfl
    | bar => cases h
    | stray c => cases h

end Steps

/-! ## Signed terms in front -/

section Front

variable {l : Literal} {a : Alternatives} {b : NonemptyList (NonemptyList SignedTerm)}

theorem standsFor_single (h : Alternatives.StandsFor (.single (.single l)) b) :
    ∃ t, l.StandsFor t ∧ b = .single (.single t) := by
  obtain ⟨⟨t, ts⟩, bs⟩ := b
  obtain ⟨⟨ht, hts⟩, hbs⟩ := h
  cases hts
  cases hbs
  exact ⟨t, ht, rfl⟩

theorem standsFor_push (h : Alternatives.StandsFor (a.push (.single l)) b) :
    ∃ t b', l.StandsFor t ∧ a.StandsFor b' ∧ b = b'.push (.single t) := by
  obtain ⟨⟨t, ts⟩, bs⟩ := b
  obtain ⟨⟨ht, hts⟩, hbs⟩ := h
  cases hts
  cases hbs with
  | cons head tail => exact ⟨t, ⟨_, _⟩, ht, ⟨head, tail⟩, rfl⟩

theorem standsFor_pushFirst (h : (a.pushFirst l).StandsFor b) :
    ∃ t b', l.StandsFor t ∧ a.StandsFor b' ∧ b = ⟨b'.head.push t, b'.tail⟩ := by
  obtain ⟨⟨t, ts⟩, bs⟩ := b
  obtain ⟨⟨ht, hts⟩, hbs⟩ := h
  cases hts with
  | cons head tail => exact ⟨t, ⟨⟨_, _⟩, bs⟩, ht, ⟨⟨head, tail⟩, hbs⟩, rfl⟩

/-- What is read behind a literal of the same alternative gets the literal's term in front. -/
theorem standsFor_of_map_pushFirst {r : Except (Option Lexeme) Alternatives}
    (h : r.map (Alternatives.pushFirst l) = .ok a) (hb : a.StandsFor b) :
    ∃ others t b', r = .ok others ∧ l.StandsFor t ∧ others.StandsFor b' ∧
      b = ⟨b'.head.push t, b'.tail⟩ := by
  obtain ⟨others, hr, rfl⟩ := map_eq_ok_iff.1 h
  obtain ⟨t, b', ht, hb', hb⟩ := standsFor_pushFirst hb
  exact ⟨others, t, b', hr, ht, hb', hb⟩

end Front

/-! ## Texts in front -/

theorem IsGap.append {s t : List Char} (hs : IsGap s) (ht : IsGap t) : IsGap (s ++ t) :=
  fun c hc => (List.mem_append.1 hc).elim (hs c) (ht c)

theorem isGap_nil : IsGap [] := fun _ h => absurd h List.not_mem_nil

namespace QueryLayout

variable {b : NonemptyList (NonemptyList SignedTerm)} {gap s u : List Char}

/-- More spacing in front of a query. -/
theorem lead (h : QueryLayout b s) (isGap : IsGap gap) : QueryLayout b (gap ++ s) := by
  cases h with
  | single leading alternative trailing =>
    simpa using QueryLayout.single (isGap.append leading) alternative trailing
  | push leading alternative trailing others =>
    simpa using QueryLayout.push (isGap.append leading) alternative trailing others

/-- One more literal in front of a query. -/
theorem pushFirst (h : QueryLayout b u) {t : SignedTerm} (literal : LiteralLayout t s)
    (isGap : IsGap gap) (ne : gap ≠ []) :
    QueryLayout ⟨b.head.push t, b.tail⟩ (s ++ gap ++ u) := by
  cases h with
  | @single a lead _ trail leading alternative trailing =>
    have ne' : gap ++ lead ≠ [] := by simp [ne]
    have first := AlternativeLayout.push literal (isGap.append leading) ne' alternative
    show QueryLayout (.single (a.push t)) _
    simpa using QueryLayout.single isGap_nil first trailing
  | @push a rest lead _ trail v leading alternative trailing others =>
    have ne' : gap ++ lead ≠ [] := by simp [ne]
    have first := AlternativeLayout.push literal (isGap.append leading) ne' alternative
    show QueryLayout (rest.push (a.push t)) _
    simpa using QueryLayout.push isGap_nil first trailing others

end QueryLayout

/-! ## What is read is laid out -/

/-- A literal is written as a text. -/
def Literal.WrittenAs (l : Literal) (s : List Char) : Prop :=
  ∀ t, l.StandsFor t → LiteralLayout t s

theorem writtenAs_plain {n : Nat} {s : List Char} (h : IsAtomText s) :
    Literal.WrittenAs ⟨false, n, Atom.ofRun s⟩ s := by
  rintro ⟨negated, t⟩ ⟨rfl, ht⟩
  exact .plain ((term?_ofRun_eq_ok_iff h).1 ht)

theorem writtenAs_negated {n : Nat} {s gap : List Char} (isGap : IsGap gap) (h : IsAtomText s) :
    Literal.WrittenAs ⟨true, n, Atom.ofRun s⟩ ('-' :: gap ++ s) := by
  rintro ⟨negated, t⟩ ⟨rfl, ht⟩
  exact .negated isGap ((term?_ofRun_eq_ok_iff h).1 ht)

/-- What is read from some lexemes is laid out in a text, with the parts in front of the text that
were read before: from a place where a term may begin, from one behind a negation sign, and from one
behind a literal. -/
structure LaidOut (xs : List Lexeme) (cs : List Char) : Prop where
  term : ∀ {gap a b}, IsGap gap → readTerm false xs = .ok a → a.StandsFor b →
    QueryLayout b (gap ++ cs)
  negated : ∀ {gap a b}, IsGap gap → readTerm true xs = .ok a → a.StandsFor b →
    QueryLayout b ('-' :: gap ++ cs)
  more : ∀ {l s gap a b}, l.WrittenAs s → IsGap gap →
    (gap = [] → ∀ c ∈ cs.head?, inRun c = false) → readMore l xs = .ok a → a.StandsFor b →
    QueryLayout b (s ++ gap ++ cs)

section LaidOut

variable {n : Nat} {xs : List Lexeme} {cs : List Char}

theorem laidOut_nil : LaidOut [] [] where
  term _ h := by cases h
  negated _ h := by cases h
  more written isGap _ h hb := by
    obtain rfl := Except.ok.inj h
    obtain ⟨t, ht, rfl⟩ := standsFor_single hb
    simpa using QueryLayout.single isGap_nil (.single (written t ht)) isGap

theorem laidOut_stray (c : Char) : LaidOut (⟨n, .stray c⟩ :: xs) cs where
  term _ h := by cases h
  negated _ h := by cases h
  more _ _ _ h := by cases h

/-- A spacing character joins the spacing in front of it. -/
theorem LaidOut.spacing {c : Char} (h : LaidOut xs cs) (spacing : Text.isSpacing c = true) :
    LaidOut xs (c :: cs) := by
  have one : IsGap [c] := fun d hd => by rwa [List.mem_singleton.1 hd]
  constructor
  · intro gap a b isGap read hb
    simpa using h.term (isGap.append one) read hb
  · intro gap a b isGap read hb
    simpa using h.negated (isGap.append one) read hb
  · intro l s gap a b written isGap _ read hb
    simpa using h.more written (isGap.append one) (fun e => absurd e (by simp)) read hb

theorem LaidOut.bar (h : LaidOut xs cs) : LaidOut (⟨n, .bar⟩ :: xs) ('|' :: cs) where
  term _ read := by cases read
  negated _ read := by cases read
  more written isGap _ read hb := by
    rw [readMore_bar, map_eq_ok_iff] at read
    obtain ⟨others, read, rfl⟩ := read
    obtain ⟨t, b', ht, hb', rfl⟩ := standsFor_push hb
    have behind := h.term isGap_nil read hb'
    simpa using QueryLayout.push isGap_nil (.single (written t ht)) isGap behind

theorem LaidOut.minus (h : LaidOut xs cs) : LaidOut (⟨n, .minus⟩ :: xs) ('-' :: cs) where
  term isGap read hb := by
    rw [readTerm_minus] at read
    exact (h.negated isGap_nil read hb).lead isGap
  negated _ read := by cases read
  more {_ _ gap _ _} written isGap separated read hb := by
    rw [readMore_minus] at read
    obtain ⟨others, t, b', read, ht, hb', rfl⟩ := standsFor_of_map_pushFirst read hb
    have ne : gap ≠ [] := fun e => absurd (separated e '-' rfl) (by decide)
    exact (h.negated isGap_nil read hb').pushFirst (written t ht) isGap ne

/-- A run is an atom, and the text behind it does not continue the run. -/
theorem LaidOut.atom {s : List Char} (h : LaidOut xs cs) (text : IsAtomText s)
    (stop : ∀ c ∈ cs.head?, inRun c = false) :
    LaidOut (⟨n, .atom (Atom.ofRun s)⟩ :: xs) (s ++ cs) := by
  constructor
  · intro gap a b isGap read hb
    rw [readTerm_atom] at read
    have here := h.more (writtenAs_plain text) isGap_nil (fun _ => stop) read hb
    simpa using here.lead isGap
  · intro gap a b isGap read hb
    rw [readTerm_atom] at read
    simpa using h.more (writtenAs_negated isGap text) isGap_nil (fun _ => stop) read hb
  · intro l r gap a b written isGap separated read hb
    rw [readMore_atom] at read
    obtain ⟨others, t, b', read, ht, hb', rfl⟩ := standsFor_of_map_pushFirst read hb
    have here := h.more (writtenAs_plain text) isGap_nil (fun _ => stop) read hb'
    have ne : gap ≠ [] := fun e => by
      obtain ⟨c, s, rfl⟩ := List.exists_cons_of_ne_nil text.ne
      have run : inRun c = true := inRun_iff.2 (text.run c List.mem_cons_self)
      rw [separated e c rfl] at run
      cases run
    simpa using here.pushFirst (written t ht) isGap ne

end LaidOut

/-- **What is read is laid out.** -/
theorem layout_of_read (n : Nat) (cs : List Char) : LaidOut (lexemes n cs) cs := by
  fun_induction lexemes n cs with
  | case1 n => exact laidOut_nil
  | case2 n c rest spacing ih => exact ih.spacing spacing
  | case3 n c rest _ blank ih => exact laidOut_stray c
  | case4 n rest _ _ ih => exact ih.bar
  | case5 n rest _ _ _ ih => exact ih.minus
  | case6 n c rest _ blank bar minus run ih =>
    have atom := ih.atom (n := n) (isAtomText_takeWhile blank bar minus rest) (head?_dropWhile rest)
    rwa [List.cons_append, List.takeWhile_append_dropWhile] at atom

/-! ## What is laid out is read -/

/-- Behind a literal, a text is read as the end of its alternative and as further alternatives. -/
def Continues (rest : List Char) (others : List (NonemptyList SignedTerm)) : Prop :=
  ∀ (l : Literal) (n : Nat), ∃ as, readMore l (lexemes n rest) = .ok ⟨.single l, as⟩ ∧
    List.Forall₂ (NonemptyList.Related Literal.StandsFor) as others

theorem continues_gap {gap : List Char} (isGap : IsGap gap) : Continues gap [] := by
  intro l n
  refine ⟨[], ?_, .nil⟩
  rw [← List.append_nil gap, lexemes_gap isGap, lexemes]
  exact readMore_nil

theorem continues_bar {gap t : List Char} {b : NonemptyList (NonemptyList SignedTerm)}
    (isGap : IsGap gap)
    (others : ∀ n, ∃ a, readTerm false (lexemes n t) = .ok a ∧ a.StandsFor b) :
    Continues (gap ++ '|' :: t) b.toList := by
  intro l n
  obtain ⟨a, h, hb⟩ := others (n + gap.length + 1)
  refine ⟨a.toList, ?_, .cons hb.head hb.tail⟩
  rw [lexemes_gap isGap, lexemes_bar, readMore_bar, h]
  rfl

/-- **A literal is read from its text**, if the text behind it does not continue its atom. -/
theorem read_of_literalLayout {t : SignedTerm} {s rest : List Char} (h : LiteralLayout t s)
    (stop : ∀ c ∈ rest.head?, inRun c = false) (n : Nat) :
    ∃ l m, l.StandsFor t ∧
      readTerm false (lexemes n (s ++ rest)) = readMore l (lexemes m rest) := by
  cases h with
  | plain atom =>
    have text := atom.isAtomText
    refine ⟨⟨false, n, Atom.ofRun s⟩, n + s.length, ⟨rfl, ?_⟩, ?_⟩
    · exact (term?_ofRun_eq_ok_iff text).2 atom
    · rw [lexemes_atom text stop, readTerm_atom]
  | @negated _ gap s isGap atom =>
    have text := atom.isAtomText
    refine ⟨⟨true, n + 1 + gap.length, Atom.ofRun s⟩, n + 1 + gap.length + s.length, ⟨rfl, ?_⟩, ?_⟩
    · exact (term?_ofRun_eq_ok_iff text).2 atom
    · rw [List.append_assoc, List.cons_append, lexemes_minus, readTerm_minus, lexemes_gap isGap,
        lexemes_atom text stop, readTerm_atom]

theorem head?_spacing {gap rest : List Char} (isGap : IsGap gap)
    (stop : gap = [] → ∀ c ∈ rest.head?, inRun c = false) :
    ∀ c ∈ (gap ++ rest).head?, inRun c = false := by
  cases gap with
  | nil => exact stop rfl
  | cons d gap =>
    intro c hc
    obtain rfl := Option.some.inj hc
    rw [inRun, Text.isBlank_of_isSpacing (isGap d List.mem_cons_self)]
    rfl

/-- An alternative is read from its text, and what follows it is read behind its last literal. -/
theorem read_of_alternativeLayout {alt : NonemptyList SignedTerm} {s rest : List Char}
    {others : List (NonemptyList SignedTerm)} (h : AlternativeLayout alt s)
    (stop : ∀ c ∈ rest.head?, inRun c = false) (behind : Continues rest others) (n : Nat) :
    ∃ a, readTerm false (lexemes n (s ++ rest)) = .ok a ∧ a.StandsFor ⟨alt, others⟩ := by
  induction h generalizing n with
  | single literal =>
    obtain ⟨l, m, ht, read⟩ := read_of_literalLayout literal stop n
    obtain ⟨as, more, has⟩ := behind l m
    exact ⟨_, read.trans more, ⟨ht, .nil⟩, has⟩
  | @push t alt s gap u literal isGap ne _ ih =>
    have stop' : ∀ c ∈ (gap ++ (u ++ rest)).head?, inRun c = false :=
      head?_spacing isGap fun e => absurd e ne
    obtain ⟨l, m, ht, read⟩ := read_of_literalLayout literal stop' n
    obtain ⟨a, more, ha⟩ := ih (m + gap.length)
    refine ⟨a.pushFirst l, ?_, ⟨ht, .cons ha.head.head ha.head.tail⟩, ha.tail⟩
    rw [List.append_assoc, List.append_assoc, read, lexemes_gap isGap, readMore_of_readTerm more]

/-- **What is laid out is read**, from any place of a text on. -/
theorem read_of_layout {b : NonemptyList (NonemptyList SignedTerm)} {s : List Char}
    (h : QueryLayout b s) (n : Nat) :
    ∃ a, readTerm false (lexemes n s) = .ok a ∧ a.StandsFor b := by
  induction h generalizing n with
  | @single alt lead s trail leading alternative trailing =>
    have stop : ∀ c ∈ (trail ++ []).head?, inRun c = false :=
      head?_spacing trailing fun _ c hc => by cases hc
    rw [List.append_nil] at stop
    rw [List.append_assoc, lexemes_gap leading]
    exact read_of_alternativeLayout alternative stop (continues_gap trailing) _
  | @push alt rest lead s trail t leading alternative trailing _ ih =>
    have stop : ∀ c ∈ (trail ++ '|' :: t).head?, inRun c = false :=
      head?_spacing trailing fun _ c hc => by
        obtain rfl := Option.some.inj hc
        decide
    rw [List.append_assoc, List.append_assoc, lexemes_gap leading]
    exact read_of_alternativeLayout alternative stop (continues_bar trailing ih) _

/-! ## Texts that are refused -/

/-- A blank text has no term. -/
theorem readTerm_blank {s : List Char} (h : s.all Text.isBlank = true) (n : Nat) :
    ∃ e, readTerm false (lexemes n s) = .error e := by
  induction s generalizing n with
  | nil => exact ⟨none, by rw [lexemes, readTerm_nil]⟩
  | cons c s ih =>
    rw [List.all_cons, Bool.and_eq_true] at h
    rw [lexemes]
    by_cases spacing : Text.isSpacing c = true
    · rw [if_pos spacing]
      exact ih h.2 _
    · rw [if_neg spacing, if_pos h.1]
      exact ⟨_, by rw [readTerm]⟩

/-- Where an atom stands, and the atom. -/
def Literal.site (l : Literal) : Nat × Atom := (l.position, l.atom)

/-- Where an atom stands, and the atom, if a lexeme is one. -/
def Lexeme.site? (x : Lexeme) : Option (Nat × Atom) :=
  match x.token with
  | .atom a => some (x.position, a)
  | _ => none

theorem Lexeme.token_of_site? {x : Lexeme} {n : Nat} {a : Atom} (h : x.site? = some (n, a)) :
    x.token = .atom a := by
  obtain ⟨m, token⟩ := x
  cases token with
  | atom b => exact congrArg Token.atom (Prod.mk.inj (Option.some.inj h)).2
  | minus | bar | stray => cases h

/-- The atoms of what is read behind a first literal. -/
theorem sites_of_map {f : Alternatives → Alternatives} {first : Literal}
    {r : Except (Option Lexeme) Alternatives} {a : Alternatives} {sites : List (Nat × Atom)}
    (hf : ∀ b, (f b).literals = first :: b.literals) (h : r.map f = .ok a)
    (others : ∀ b, r = .ok b → b.literals.map Literal.site = sites) :
    a.literals.map Literal.site = first.site :: sites := by
  obtain ⟨b, hr, rfl⟩ := map_eq_ok_iff.1 h
  rw [hf, List.map_cons, others b hr]

/-- **The literals that are read have the atoms of the lexemes**, in their order. -/
theorem sites_of_read (xs : List Lexeme) :
    (∀ negated a, readTerm negated xs = .ok a →
      a.literals.map Literal.site = xs.filterMap Lexeme.site?) ∧
    (∀ first a, readMore first xs = .ok a →
      a.literals.map Literal.site = first.site :: xs.filterMap Lexeme.site?) := by
  induction xs with
  | nil =>
    refine ⟨fun negated a h => ?_, fun first a h => ?_⟩
    · cases h
    · obtain rfl := Except.ok.inj h
      rfl
  | cons x xs ih =>
    obtain ⟨term, more⟩ := ih
    obtain ⟨n, token⟩ := x
    cases token with
    | atom b =>
      refine ⟨fun negated a h => ?_, fun first a h => ?_⟩
      · rw [readTerm_atom] at h
        exact more _ a h
      · rw [readMore_atom] at h
        exact sites_of_map (fun _ => Alternatives.literals_pushFirst) h (more _)
    | minus =>
      refine ⟨fun negated a h => ?_, fun first a h => ?_⟩
      · cases negated with
        | false =>
          rw [readTerm_minus] at h
          exact term true a h
        | true => cases h
      · rw [readMore_minus] at h
        exact sites_of_map (fun _ => Alternatives.literals_pushFirst) h (term true)
    | bar =>
      refine ⟨fun negated a h => ?_, fun first a h => ?_⟩
      · cases h
      · rw [readMore_bar] at h
        exact sites_of_map (fun _ => Alternatives.literals_push) h (term false)
    | stray c =>
      refine ⟨fun negated a h => ?_, fun first a h => ?_⟩
      · cases h
      · cases h

/-- A literal that is read has the atom of a lexeme. -/
theorem exists_lexeme_of_mem_literals {xs : List Lexeme} {negated : Bool} {a : Alternatives}
    (h : readTerm negated xs = .ok a) {l : Literal} (hl : l ∈ a.literals) :
    ∃ x ∈ xs, x.token = .atom l.atom := by
  have mem := List.mem_map_of_mem (f := Literal.site) hl
  rw [(sites_of_read xs).1 negated a h, List.mem_filterMap] at mem
  obtain ⟨x, hx, site⟩ := mem
  exact ⟨x, hx, Lexeme.token_of_site? site⟩

/-! ## Queries -/

theorem ofText_eq_ok_iff {s : List Char} {a : Alternatives} :
    Alternatives.ofText s = .ok a ↔ readTerm false (lexemes 0 s) = .ok a := by
  rw [Alternatives.ofText]
  cases readTerm false (lexemes 0 s) <;> simp [Except.mapError]

/-- **A query has an expression if it is laid out**, and it is that of what is laid out. -/
theorem parse_eq_ok_iff {q : String} {e : Expr} :
    parse q = .ok e ↔ ∃ b, QueryLayout b q.toList ∧ e = alternativesExpr b := by
  rw [parse]
  constructor
  · split
    · intro h
      cases h
    · intro h
      obtain ⟨a, read, h⟩ := bind_eq_ok_iff.1 h
      obtain ⟨b, hb, rfl⟩ := Alternatives.expr?_eq_ok_iff.1 h
      exact ⟨b, (layout_of_read 0 q.toList).term isGap_nil (ofText_eq_ok_iff.1 read) hb, rfl⟩
  · rintro ⟨b, layout, rfl⟩
    obtain ⟨a, read, hb⟩ := read_of_layout layout 0
    have notBlank : ¬ Text.isBlankText q = true := fun blank => by
      obtain ⟨e, refused⟩ := readTerm_blank blank 0
      rw [read] at refused
      cases refused
    rw [if_neg notBlank, bind_eq_ok_iff]
    exact ⟨a, ofText_eq_ok_iff.2 read, Alternatives.expr?_eq_ok_iff.2 ⟨b, hb, rfl⟩⟩

/-- **A query that is refused is wrong at a place**, and never for a term of blank text. -/
theorem position?_of_parse_eq_error {q : String} {err : QueryError} (h : parse q = .error err) :
    ∃ position, err.position? = some position := by
  rw [parse] at h
  split at h
  · obtain rfl := Except.error.inj h
    exact ⟨_, rfl⟩
  · rcases bind_eq_error_iff.1 h with h | ⟨a, read, h⟩
    · rw [Alternatives.ofText] at h
      cases refused : readTerm false (lexemes 0 q.toList) with
      | ok a =>
        rw [refused] at h
        cases h
      | error e =>
        rw [refused] at h
        obtain rfl := Except.error.inj h
        cases e with
        | none => exact ⟨_, rfl⟩
        | some x => exact ⟨_, rfl⟩
    · have first := errorOf?_eq_some_iff.2 h
      rw [Alternatives.errorOf?_expr?] at first
      obtain ⟨⟨negated, n, atom⟩, hl, fails⟩ := List.exists_of_findSome?_eq_some first
      rw [errorOf?_eq_some_iff] at fails
      obtain ⟨x, hx, made⟩ := exists_lexeme_of_mem_literals (ofText_eq_ok_iff.1 read) hl
      obtain ⟨run, isAtomText, rfl⟩ := exists_run_of_mem_lexemes hx made
      cases err with
      | malformed position fault => exact ⟨_, rfl⟩
      | unknownKey position key => exact ⟨_, rfl⟩
      | blankTerm t => exact absurd fails (term?_ofRun_ne_blankTerm isAtomText)

/-- **Queries are read as they are laid out.** A text has an expression just if it is a layout of
alternatives whose expression that is, and a text that is no layout is refused at some place. -/
theorem parse_iff_layout (q : String) :
    (∀ e, parse q = .ok e ↔ ∃ a, QueryLayout a q.toList ∧ e = alternativesExpr a) ∧
    ((¬ ∃ a, QueryLayout a q.toList) ↔
      ∃ err position, parse q = .error err ∧ err.position? = some position) := by
  refine ⟨fun e => parse_eq_ok_iff, ?_⟩
  cases h : parse q with
  | ok e =>
    obtain ⟨a, layout, -⟩ := parse_eq_ok_iff.1 h
    refine iff_of_false (not_not.2 ⟨a, layout⟩) ?_
    rintro ⟨err, position, refused, -⟩
    cases refused
  | error err =>
    obtain ⟨position, place⟩ := position?_of_parse_eq_error h
    refine iff_of_true ?_ ⟨err, position, rfl, place⟩
    rintro ⟨a, layout⟩
    rw [parse_eq_ok_iff.2 ⟨a, layout, rfl⟩] at h
    cases h

end TagSearch
