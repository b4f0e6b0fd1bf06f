import TagSearch.Proofs.Query.Layouts
import TagSearch.Proofs.Query.Sentences

/-!
# Refused texts are refused at the right place

A text is read from the left, and the first piece that cannot be read is the first one that no
sentence has in its place. A text that is read as a sentence is refused at its leftmost bad term.

* `Verdict` says of a reading what its outcome tells about the pieces, `verdict_read` that it does.
* `cutInto_lexemes`: the lexemes of a text are its pieces.
* `parse_error_iff_refused`: which texts are refused, where, and why.
-/

namespace TagSearch

/-! ## Reading and the grammar -/

/-- What the outcome of a reading tells about the pieces, behind those that were read before: they
are a sentence, or need one more piece, or have a first piece that no sentence has there. -/
inductive Verdict (read : List Token) (xs : List Lexeme) :
    Except (Option Lexeme) Alternatives → Prop
  | accepted {a : Alternatives} (sentence : IsSentence (read ++ tokensOf xs)) :
      Verdict read xs (.ok a)
  | ended (before : IsContinuable (read ++ tokensOf xs))
      (unfinished : ¬ IsSentence (read ++ tokensOf xs)) : Verdict read xs (.error none)
  | piece {front back : List Lexeme} {x : Lexeme} (split : xs = front ++ x :: back)
      (before : IsContinuable (read ++ tokensOf front))
      (wrong : ¬ IsContinuable (read ++ tokensOf (front ++ [x]))) :
      Verdict read xs (.error (some x))

namespace Verdict

variable {read read' : List Token} {x : Lexeme} {xs : List Lexeme}
  {r : Except (Option Lexeme) Alternatives}

theorem map (h : Verdict read xs r) (f : Alternatives → Alternatives) :
    Verdict read xs (r.map f) := by
  cases h with
  | accepted sentence => exact .accepted sentence
  | ended before unfinished => exact .ended before unfinished
  | piece split before wrong => exact .piece split before wrong

/-- One more piece is read, if what may follow it is what may follow the pieces that the reader
remembers instead. -/
theorem cons (h : Verdict read' xs r)
    (same : ∀ l, IsSentence (read ++ x.token :: l) ↔ IsSentence (read' ++ l)) :
    Verdict read (x :: xs) r := by
  have continuable (l : List Token) :
      IsContinuable (read ++ x.token :: l) ↔ IsContinuable (read' ++ l) := by
    have pieces (l : List Token) : read ++ x.token :: l = read ++ [x.token] ++ l := by simp
    rw [pieces]
    exact isContinuable_congr (fun r => by rw [← pieces]; exact same r) l
  cases h with
  | accepted sentence => exact .accepted ((same _).2 sentence)
  | ended before unfinished =>
    exact .ended ((continuable _).2 before) fun h => unfinished ((same _).1 h)
  | @piece front back y split before wrong =>
    have split' : x :: xs = (x :: front) ++ y :: back := by rw [split]; rfl
    exact .piece split' ((continuable _).2 before) fun h => wrong ((continuable _).1 h)

/-- The first piece cannot follow those before it. -/
theorem first (before : IsContinuable read)
    (never : ∀ l, ¬ IsSentence (read ++ x.token :: l)) :
    Verdict read (x :: xs) (.error (some x)) := by
  have split : x :: xs = [] ++ x :: xs := rfl
  refine .piece split ?_ (not_isContinuable never)
  rw [tokensOf, List.map_nil, List.append_nil]
  exact before

end Verdict

/-- The piece that a reader remembers where a term is required. -/
def signTokens (negated : Bool) : List Token := if negated then [.minus] else []

theorem isContinuable_sign (negated : Bool) : IsContinuable (signTokens negated) := by
  cases negated with
  | false => exact isContinuable_nil
  | true => exact isContinuable_minus

/-- Only an atom may follow a negation sign, which makes no other difference. -/
theorem isSentence_sign_atom_iff {negated : Bool} {a : Atom} {l : List Token} :
    IsSentence (signTokens negated ++ .atom a :: l) ↔ IsSentence (.atom a :: l) := by
  cases negated with
  | false => rfl
  | true =>
    refine isSentence_minus_iff.trans ⟨?_, fun h => ⟨a, l, rfl, h⟩⟩
    rintro ⟨_, _, _, h⟩
    exact h

theorem not_isSentence_sign {negated : Bool} {l : List Token} (h : ¬ IsSentence l) :
    ¬ IsSentence (signTokens negated ++ l) := by
  cases negated with
  | false => exact h
  | true =>
    intro sentence
    obtain ⟨_, _, _, rest⟩ := isSentence_minus_iff.1 sentence
    exact h rest

/-- **What is read, ends too early or is refused** is so by the grammar. A reader that requires a
term remembers a negation sign, and one behind a literal remembers its atom. -/
theorem verdict_read (xs : List Lexeme) :
    (∀ negated, Verdict (signTokens negated) xs (readTerm negated xs)) ∧
    (∀ l : Literal, Verdict [.atom l.atom] xs (readMore l xs)) := by
  induction xs with
  | nil =>
    refine ⟨fun negated => ?_, fun l => ?_⟩
    · rw [readTerm_nil]
      refine .ended ?_ (not_isSentence_sign not_isSentence_nil)
      rw [tokensOf, List.map_nil, List.append_nil]
      exact isContinuable_sign negated
    · rw [readMore_nil]
      exact .accepted isSentence_atom
  | cons x xs ih =>
    obtain ⟨term, more⟩ := ih
    obtain ⟨n, token⟩ := x
    cases token with
    | atom a =>
      refine ⟨fun negated => ?_, fun l => ?_⟩
      · rw [readTerm_atom]
        exact (more _).cons fun r => isSentence_sign_atom_iff
      · rw [readMore_atom]
        exact ((more _).cons fun r => isSentence_atom_cons_iff (by simp)).map _
    | minus =>
      refine ⟨fun negated => ?_, fun l => ?_⟩
      · cases negated with
        | false =>
          rw [readTerm_minus]
          exact (term true).cons fun r => Iff.rfl
        | true =>
          refine .first (isContinuable_sign true) fun r h => ?_
          obtain ⟨_, _, e, _⟩ := isSentence_minus_iff.1 h
          cases e
      · rw [readMore_minus]
        exact ((term true).cons fun r => isSentence_atom_cons_iff (by simp)).map _
    | bar =>
      refine ⟨fun negated => ?_, fun l => ?_⟩
      · exact .first (isContinuable_sign negated) fun r =>
          not_isSentence_sign not_isSentence_bar
      · rw [readMore_bar]
        exact ((term false).cons fun r => isSentence_atom_bar_iff).map _
    | stray c =>
      refine ⟨fun negated => ?_, fun l => ?_⟩
      · exact .first (isContinuable_sign negated) fun r =>
          not_isSentence_sign not_isSentence_stray
      · exact .first isSentence_atom.isContinuable fun r h =>
          not_isSentence_stray ((isSentence_atom_cons_iff (by simp)).1 h)

/-! ## One verdict for each text -/

theorem IsContinuable.of_append {l r : List Token} (h : IsContinuable (l ++ r)) :
    IsContinuable l := by
  obtain ⟨rest, h⟩ := h
  exact ⟨r ++ rest, by rwa [← List.append_assoc]⟩

theorem tokensOf_append (xs ys : List Lexeme) : tokensOf (xs ++ ys) = tokensOf xs ++ tokensOf ys :=
  List.map_append

/-- No text with a first wrong piece is a sentence or starts one. -/
theorem not_isContinuable_of_piece {xs front back : List Lexeme} {x : Lexeme}
    (split : xs = front ++ x :: back) (wrong : ¬ IsContinuable (tokensOf (front ++ [x]))) :
    ¬ IsContinuable (tokensOf xs) := by
  intro h
  have pieces : front ++ x :: back = (front ++ [x]) ++ back := by simp
  rw [split, pieces, tokensOf_append] at h
  exact wrong h.of_append

/-- There is one first wrong piece. -/
theorem piece_unique {front front' back back' : List Lexeme} {x x' : Lexeme}
    (split : front ++ x :: back = front' ++ x' :: back')
    (before : IsContinuable (tokensOf front)) (wrong : ¬ IsContinuable (tokensOf (front ++ [x])))
    (before' : IsContinuable (tokensOf front'))
    (wrong' : ¬ IsContinuable (tokensOf (front' ++ [x']))) : x = x' := by
  -- If one front part were shorter, the other one would contain its wrong piece.
  rcases List.append_eq_append_iff.1 split with ⟨mid, hfront, hback⟩ | ⟨mid, hfront, hback⟩
  · cases mid with
    | nil => exact (List.cons.inj hback).1
    | cons y mid =>
      obtain rfl := (List.cons.inj hback).1
      exact absurd before' (not_isContinuable_of_piece hfront wrong)
  · cases mid with
    | nil => exact (List.cons.inj hback).1.symm
    | cons y mid =>
      obtain rfl := (List.cons.inj hback).1
      exact absurd before (not_isContinuable_of_piece hfront wrong')

/-- **A text has one verdict**: the outcome of its reading is settled by the grammar. -/
theorem Verdict.unique {xs : List Lexeme} {r r' : Except (Option Lexeme) Alternatives}
    (h : Verdict [] xs r) (h' : Verdict [] xs r') : errorOf? r = errorOf? r' := by
  cases h with
  | accepted sentence =>
    cases h' with
    | accepted => rfl
    | ended _ unfinished => exact absurd sentence unfinished
    | piece split _ wrong =>
      exact absurd sentence.isContinuable (not_isContinuable_of_piece split wrong)
  | ended before unfinished =>
    cases h' with
    | accepted sentence => exact absurd sentence unfinished
    | ended => rfl
    | piece split _ wrong => exact absurd before (not_isContinuable_of_piece split wrong)
  | piece split before wrong =>
    cases h' with
    | accepted sentence =>
      exact absurd sentence.isContinuable (not_isContinuable_of_piece split wrong)
    | ended before' => exact absurd before' (not_isContinuable_of_piece split wrong)
    | piece split' before' wrong' =>
      rw [piece_unique (split.symm.trans split') before wrong before' wrong']

/-! ## Bad terms -/

/-- The error of a lexeme, if it is an atom whose key is bad. -/
def Lexeme.error? (x : Lexeme) : Option QueryError :=
  x.site?.bind fun site => site.2.error? site.1

theorem Lexeme.error?_eq_some_iff {x : Lexeme} {err : QueryError} :
    x.error? = some err ↔ ∃ key value, x.token = .atom (.keyed key value) ∧
      (key.toLower ≠ pathKey ∧ err = .unknownKey x.position key ∨
        key.toLower = pathKey ∧ value = "" ∧
          err = .malformed (x.position + key.length + 1) (.missingValue key)) := by
  obtain ⟨n, token⟩ := x
  cases token with
  | minus | bar | stray => simp [error?, site?]
  | atom a =>
    cases a with
    | word text => simp [error?, site?, Atom.error?]
    | keyed key value =>
      show Atom.error? n (.keyed key value) = some err ↔ _
      rw [Atom.error?]
      by_cases named : key.toLower = pathKey
      · by_cases empty : value = "" <;> simp [named, empty, @eq_comm _ err]
      · simp [named, @eq_comm _ err]

theorem Lexeme.error?_eq_none_iff {x : Lexeme} : x.error? = none ↔ ¬ x.token.IsBad := by
  rw [Option.eq_none_iff_forall_ne_some, ← not_exists_not]
  refine not_congr ?_
  simp only [not_not, Lexeme.error?_eq_some_iff]
  constructor
  · rintro ⟨err, key, value, keyed, ⟨unknown, -⟩ | ⟨_, empty, -⟩⟩
    · exact ⟨key, value, keyed, Or.inl unknown⟩
    · exact ⟨key, value, keyed, Or.inr empty⟩
  · rintro ⟨key, value, keyed, bad⟩
    by_cases named : key.toLower = pathKey
    · exact ⟨_, key, value, keyed, Or.inr ⟨named, bad.resolve_left (not_not.2 named), rfl⟩⟩
    · exact ⟨_, key, value, keyed, Or.inl ⟨named, rfl⟩⟩

/-- **A sentence is refused for its leftmost bad term.** -/
theorem errorOf?_expr?_of_read {s : List Char} {a : Alternatives}
    (h : readTerm false (lexemes 0 s) = .ok a) :
    errorOf? a.expr? = (lexemes 0 s).findSome? Lexeme.error? := by
  have sites := (sites_of_read _).1 false a h
  have literal : ∀ l ∈ a.literals, errorOf? l.term? = l.atom.error? l.position := by
    intro l hl
    obtain ⟨x, hx, made⟩ := exists_lexeme_of_mem_literals h hl
    obtain ⟨run, isAtomText, made⟩ := exists_run_of_mem_lexemes hx made
    obtain ⟨negated, n, atom⟩ := l
    subst made
    exact errorOf?_term?_ofRun isAtomText
  rw [Alternatives.errorOf?_expr?, findSome?_congr literal]
  have mapped : a.literals.findSome? (fun l => l.atom.error? l.position) =
      (a.literals.map Literal.site).findSome? fun site => site.2.error? site.1 := by
    rw [List.findSome?_map]
    rfl
  rw [mapped, sites, findSome?_filterMap]
  rfl

/-! ## The pieces of a text -/

/-- More spacing in front of a text. -/
theorem CutInto.lead {n : Nat} {c : Char} {xs : List Lexeme} {s : List Char}
    (h : CutInto (n + 1) xs s) (spacing : Text.isSpacing c = true) : CutInto n xs (c :: s) := by
  have more {gap : List Char} (isGap : IsGap gap) : IsGap (c :: gap) := fun d hd => by
    rcases List.mem_cons.1 hd with rfl | hd
    · exact spacing
    · exact isGap d hd
  cases h with
  | spacing isGap => exact .spacing (more isGap)
  | cons isGap place longest others =>
    refine CutInto.cons (more isGap) ?_ longest others
    rw [place, List.length_cons, Nat.add_assoc, Nat.add_comm 1]

/-- A piece at the start of a text. -/
theorem CutInto.piece {n : Nat} {t : Token} {xs : List Lexeme} {rest : List Char}
    (longest : ∀ a, t = .atom a → ∀ c ∈ rest.head?, inRun c = false)
    (others : CutInto (n + t.text.length) xs rest) :
    CutInto n (⟨n, t⟩ :: xs) (t.text.toList ++ rest) :=
  .cons isGap_nil rfl longest others

/-- **The lexemes of a text are its pieces.** -/
theorem cutInto_lexemes (n : Nat) (s : List Char) : CutInto n (lexemes n s) s := by
  fun_induction lexemes n s with
  | case1 => exact .spacing isGap_nil
  | case2 n c rest spacing ih => exact ih.lead spacing
  | case3 n c rest _ _ ih =>
    have text : (Token.stray c).text = String.singleton c := rfl
    have length : (Token.stray c).text.length = 1 := by rw [text, String.length_singleton]
    have piece : CutInto n (⟨n, .stray c⟩ :: lexemes (n + 1) rest)
        ((Token.stray c).text.toList ++ rest) := .piece (by rintro _ ⟨⟩) (by rw [length]; exact ih)
    rwa [text, String.toList_singleton] at piece
  | case4 n rest _ _ ih => exact .piece (t := .bar) (by rintro _ ⟨⟩) ih
  | case5 n rest _ _ _ ih => exact .piece (t := .minus) (by rintro _ ⟨⟩) ih
  | case6 n c rest _ blank bar minus run ih =>
    have text : (Token.atom (Atom.ofRun (c :: run))).text = String.ofList (c :: run) :=
      Atom.text_ofRun _
    have whole : c :: rest = (Token.atom (Atom.ofRun (c :: run))).text.toList ++
        rest.dropWhile inRun := by
      rw [text, String.toList_ofList, List.cons_append, List.takeWhile_append_dropWhile]
    rw [whole]
    refine .piece (fun _ _ => head?_dropWhile rest) ?_
    rw [text, String.length_ofList, List.length_cons, Nat.add_comm run.length, ← Nat.add_assoc]
    exact ih

/-- Every piece lies within the text. -/
theorem CutInto.position_le {n : Nat} {xs : List Lexeme} {s : List Char} (h : CutInto n xs s) :
    ∀ x ∈ xs, x.position + x.token.text.length ≤ n + s.length := by
  induction h with
  | spacing => nofun
  | @cons n gap rest y ys _ place _ _ ih =>
    have length : (gap ++ y.token.text.toList ++ rest).length =
        gap.length + y.token.text.length + rest.length := by
      rw [List.length_append, List.length_append, String.length_toList]
    intro x hx
    rcases List.mem_cons.1 hx with rfl | hx
    · omega
    · have := ih x hx
      omega

/-! ## Refusals -/

variable {q : String} {err : QueryError}

theorem refused_of_parse_eq_error (h : parse q = .error err) : Refused q err := by
  rw [parse] at h
  split at h
  case isTrue isBlank =>
    obtain rfl := Except.error.inj h
    exact .blank isBlank
  case isFalse notBlank =>
    have notBlank := eq_false_of_ne_true notBlank
    have verdict : Verdict [] _ _ := (verdict_read (lexemes 0 q.toList)).1 false
    rcases bind_eq_error_iff.1 h with h | ⟨a, read, h⟩
    · rw [Alternatives.ofText] at h
      generalize readTerm false (lexemes 0 q.toList) = r at h verdict
      cases verdict with
      | accepted => cases h
      | ended before unfinished =>
        obtain rfl := Except.error.inj h
        rw [String.length_toList]
        exact .ended notBlank before unfinished
      | piece split before wrong =>
        obtain rfl := Except.error.inj h
        exact .piece notBlank split before wrong
    · have read := ofText_eq_ok_iff.1 read
      rw [read] at verdict
      obtain ⟨sentence⟩ := verdict
      have bad := errorOf?_eq_some_iff.2 h
      rw [errorOf?_expr?_of_read read] at bad
      obtain ⟨front, ⟨n, token⟩, back, split, bad, others⟩ := List.findSome?_eq_some_iff.1 bad
      have leftmost : ∀ y ∈ front, ¬ y.token.IsBad := fun y hy =>
        Lexeme.error?_eq_none_iff.1 (others y hy)
      obtain ⟨key, value, keyed, bad⟩ := Lexeme.error?_eq_some_iff.1 bad
      obtain rfl : token = .atom (.keyed key value) := keyed
      rcases bad with ⟨unknown, rfl⟩ | ⟨known, rfl, rfl⟩
      · exact .unknownKey sentence split leftmost unknown
      · exact .missingValue sentence split leftmost known

/-- What is read from the lexemes of a text that is not blank is what the grammar says. -/
theorem parse_of_notBlank (h : Text.isBlankText q = false) :
    parse q = Alternatives.ofText q.toList >>= Alternatives.expr? := by
  rw [parse, if_neg (by simp [h])]

/-- A text whose pieces are a sentence is read, and refused for its leftmost bad term. -/
theorem parse_of_isSentence {front back : List Lexeme} {x : Lexeme}
    (sentence : IsSentence (tokensOf (lexemes 0 q.toList)))
    (split : lexemes 0 q.toList = front ++ x :: back) (leftmost : ∀ y ∈ front, ¬ y.token.IsBad)
    (bad : x.error? = some err) : parse q = .error err := by
  have verdict := (verdict_read (lexemes 0 q.toList)).1 false
  have accepted : Verdict [] (lexemes 0 q.toList) (.ok (.single (.single ⟨false, 0, .word ""⟩))) :=
    .accepted sentence
  have noError := Verdict.unique verdict accepted
  cases read : readTerm false (lexemes 0 q.toList) with
  | error e =>
    rw [read] at noError
    cases noError
  | ok a =>
    have notBlank : Text.isBlankText q = false := by
      refine eq_false_of_ne_true fun isBlank => ?_
      obtain ⟨e, refused⟩ := readTerm_blank isBlank 0
      rw [read] at refused
      cases refused
    rw [parse_of_notBlank notBlank, ofText_eq_ok_iff.2 read]
    refine errorOf?_eq_some_iff.1 ?_
    refine (errorOf?_expr?_of_read read).trans (List.findSome?_eq_some_iff.2 ?_)
    exact ⟨front, x, back, split, bad, fun y hy => Lexeme.error?_eq_none_iff.2 (leftmost y hy)⟩

theorem parse_eq_error_of_refused (h : Refused q err) : parse q = .error err := by
  have verdict : Verdict [] _ _ := (verdict_read (lexemes 0 q.toList)).1 false
  cases h with
  | blank isBlank => rw [parse, if_pos isBlank]
  | piece notBlank split before wrong =>
    have error := Verdict.unique verdict (.piece split before wrong)
    rw [parse_of_notBlank notBlank, Alternatives.ofText, errorOf?_eq_some_iff.1 error]
    rfl
  | ended notBlank before unfinished =>
    have error := Verdict.unique verdict (.ended before unfinished)
    rw [parse_of_notBlank notBlank, Alternatives.ofText, errorOf?_eq_some_iff.1 error,
      ← String.length_toList]
    rfl
  | unknownKey sentence split leftmost unknown =>
    refine parse_of_isSentence sentence split leftmost (Lexeme.error?_eq_some_iff.2 ?_)
    exact ⟨_, _, rfl, Or.inl ⟨unknown, rfl⟩⟩
  | missingValue sentence split leftmost known =>
    refine parse_of_isSentence sentence split leftmost (Lexeme.error?_eq_some_iff.2 ?_)
    exact ⟨_, _, rfl, Or.inr ⟨known, rfl, rfl⟩⟩

/-- A refusal points into the text or at its end. -/
theorem Refused.position_le (h : Refused q err) :
    ∃ position, err.position? = some position ∧ position ≤ q.length := by
  have within : ∀ x ∈ lexemes 0 q.toList, x.position + x.token.text.length ≤ q.length := by
    have all := (cutInto_lexemes 0 q.toList).position_le
    rwa [Nat.zero_add, String.length_toList] at all
  cases h with
  | blank => exact ⟨0, rfl, Nat.zero_le _⟩
  | @piece front back x _ split =>
    have := within x (by simp [split])
    exact ⟨_, rfl, by omega⟩
  | ended => exact ⟨_, rfl, Nat.le_refl _⟩
  | unknownKey _ split =>
    have := within _ (by rw [split]; exact List.mem_append_right _ List.mem_cons_self)
    exact ⟨_, rfl, by dsimp only at this; omega⟩
  | @missingValue front back n key _ split =>
    have := within _ (by rw [split]; exact List.mem_append_right _ List.mem_cons_self)
    have colon : ":".length = 1 := rfl
    have length : (Token.atom (.keyed key "")).text.length = key.length + 1 := by
      simp [Token.text, Atom.text, colon]
    exact ⟨_, rfl, by dsimp only at this; omega⟩

/-- **Refused texts are refused at the right place.** A text has an error just if the error is the
right one for it: at the start of a blank text, at the first piece that no sentence has there, at
the end of a text that needs one more piece, and otherwise at the leftmost bad term. Every error
points into the text or at its end, and the pieces are those of the text, each where it stands. -/
theorem parse_error_iff_refused (q : String) :
    (∀ err, parse q = .error err ↔ Refused q err) ∧
    (∀ err, parse q = .error err →
      ∃ position, err.position? = some position ∧ position ≤ q.length) ∧
    CutInto 0 (lexemes 0 q.toList) q.toList :=
  ⟨fun _ => ⟨refused_of_parse_eq_error, parse_eq_error_of_refused⟩,
    fun _ h => (refused_of_parse_eq_error h).position_le, cutInto_lexemes 0 q.toList⟩

theorem parse_error_iff_refused_unknown :
    parse "a x:b" = .error (.unknownKey 2 "x") ∧ Refused "a x:b" (.unknownKey 2 "x") ∧
      ∃ position, (QueryError.unknownKey 2 "x").position? = some position ∧
        position ≤ "a x:b".length := by
  have refused : parse "a x:b" = .error (.unknownKey 2 "x") := by decide +kernel
  obtain ⟨right, within, _⟩ := parse_error_iff_refused "a x:b"
  exact ⟨refused, (right _).1 refused, within _ refused⟩

end TagSearch
