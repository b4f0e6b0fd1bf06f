import TagSearch.Proofs.Query.Layouts

/-!
# Blank characters in queries

Spaces may stand for the blank characters of a text. Where a text holds no blank character but
spacing, this changes nothing: it has the same lexemes at the same places. Where it holds another
one, the text is refused, and with spaces instead it may be a query.

* `lexemes_respaced`: the lexemes of a text in which spaces stand for spacing.
* `QueryLayout.spaced`: what is laid out holds no blank characters but spacing.
* `parse_respaced`: how a text is read if spaces stand for some of its blank characters.
-/

namespace TagSearch

variable {s t : List Char}

/-- A text with spaces in the place of some of the blank characters of another one. -/
def Respaced (s t : List Char) : Prop :=
  List.Forall₂ (fun c d => d = c ∨ Text.isBlank c = true ∧ d = ' ') s t

/-- Every blank character of a text is spacing. -/
def Spaced (s : List Char) : Prop := ∀ c ∈ s, Text.isBlank c = true → Text.isSpacing c = true

instance (s t : List Char) : Decidable (Respaced s t) :=
  inferInstanceAs (Decidable (List.Forall₂ _ s t))

instance (s : List Char) : Decidable (Spaced s) := List.decidableBAll _ s

/-! ## Spaces for blank characters -/

section Respaced

variable {c d : Char}

/-- A character that is not blank is left alone. -/
theorem eq_of_respaced (h : d = c ∨ Text.isBlank c = true ∧ d = ' ')
    (plain : Text.isBlank c ≠ true) : d = c := by
  rcases h with h | ⟨blank, -⟩
  · exact h
  · exact absurd blank plain

theorem isBlank_respaced (h : d = c ∨ Text.isBlank c = true ∧ d = ' ') :
    Text.isBlank d = Text.isBlank c := by
  rcases h with rfl | ⟨blank, rfl⟩
  · rfl
  · rw [blank]
    rfl

theorem inRun_respaced (h : d = c ∨ Text.isBlank c = true ∧ d = ' ') : inRun d = inRun c := by
  rcases h with rfl | ⟨blank, rfl⟩
  · rfl
  · unfold inRun
    rw [blank]
    rfl

/-- The run at the start of a text holds no blank character, so it stays the same. -/
theorem Respaced.run (h : Respaced s t) :
    t.takeWhile inRun = s.takeWhile inRun ∧
      Respaced (s.dropWhile inRun) (t.dropWhile inRun) := by
  induction h with
  | nil => exact ⟨rfl, .nil⟩
  | @cons c d s t first rest ih =>
    have same := inRun_respaced first
    by_cases inside : inRun c = true
    · have plain : Text.isBlank c ≠ true := by
        rw [(inRun_iff.1 inside).1]
        exact Bool.false_ne_true
      obtain rfl := eq_of_respaced first plain
      rw [List.takeWhile_cons_of_pos inside, List.takeWhile_cons_of_pos inside,
        List.dropWhile_cons_of_pos inside, List.dropWhile_cons_of_pos inside, ih.1]
      exact ⟨rfl, ih.2⟩
    · have inside' : ¬ inRun d = true := by rwa [same]
      rw [List.takeWhile_cons_of_neg inside, List.takeWhile_cons_of_neg inside',
        List.dropWhile_cons_of_neg inside, List.dropWhile_cons_of_neg inside']
      exact ⟨rfl, .cons first rest⟩

/-- **Spaces may stand for spacing**: the lexemes are the same, and at the same places. -/
theorem lexemes_respaced (h : Respaced s t) (spaced : Spaced s) (n : Nat) :
    lexemes n t = lexemes n s := by
  fun_induction lexemes n s generalizing t with
  | case1 n =>
    cases h
    rw [lexemes]
  | case2 n c rest spacing ih =>
    obtain ⟨d, t, first, behind, rfl⟩ := List.forall₂_cons_left_iff.1 h
    have spacing' : Text.isSpacing d = true := by
      rcases first with rfl | ⟨-, rfl⟩
      · exact spacing
      · rfl
    rw [lexemes_spacing spacing']
    exact ih behind fun e he => spaced e (List.mem_cons_of_mem _ he)
  | case3 n c rest spacing blank ih =>
    exact absurd (spaced c List.mem_cons_self blank) spacing
  | case4 n rest _ blank ih =>
    obtain ⟨d, t, first, behind, rfl⟩ := List.forall₂_cons_left_iff.1 h
    obtain rfl := eq_of_respaced first blank
    rw [lexemes_bar, ih behind fun e he => spaced e (List.mem_cons_of_mem _ he)]
  | case5 n rest _ blank _ ih =>
    obtain ⟨d, t, first, behind, rfl⟩ := List.forall₂_cons_left_iff.1 h
    obtain rfl := eq_of_respaced first blank
    rw [lexemes_minus, ih behind fun e he => spaced e (List.mem_cons_of_mem _ he)]
  | case6 n c rest spacing blank bar minus run =>
    rename_i ih
    obtain ⟨d, t, first, behind, rfl⟩ := List.forall₂_cons_left_iff.1 h
    obtain rfl := eq_of_respaced first blank
    obtain ⟨same, behind⟩ := Respaced.run behind
    have spaced' : Spaced (rest.dropWhile inRun) := fun e he =>
      spaced e (List.mem_cons_of_mem _ ((List.dropWhile_suffix _).mem he))
    rw [lexemes, if_neg spacing, if_neg blank, if_neg bar, if_neg minus]
    dsimp only
    rw [same, ih behind spaced']

theorem all_isBlank_respaced (h : Respaced s t) : t.all Text.isBlank = s.all Text.isBlank := by
  induction h with
  | nil => rfl
  | cons first rest ih => rw [List.all_cons, List.all_cons, isBlank_respaced first, ih]

end Respaced

/-! ## Blank characters of a layout -/

theorem spaced_append : Spaced (s ++ t) ↔ Spaced s ∧ Spaced t := List.forall_mem_append

theorem IsGap.spaced (h : IsGap s) : Spaced s := fun c hc _ => h c hc

theorem spaced_cons {c : Char} (plain : Text.isBlank c = false) : Spaced (c :: s) ↔ Spaced s := by
  unfold Spaced
  rw [List.forall_mem_cons, plain]
  simp

theorem AtomLayout.spaced {term : Term} (h : AtomLayout term s) : Spaced s := by
  intro c hc blank
  rw [(h.isAtomText.run c hc).1] at blank
  cases blank

theorem LiteralLayout.spaced {l : SignedTerm} (h : LiteralLayout l s) : Spaced s := by
  cases h with
  | plain atom => exact atom.spaced
  | negated isGap atom =>
    rw [List.cons_append, spaced_cons (by decide), spaced_append]
    exact ⟨isGap.spaced, atom.spaced⟩

theorem AlternativeLayout.spaced {a : NonemptyList SignedTerm} (h : AlternativeLayout a s) :
    Spaced s := by
  induction h with
  | single literal => exact literal.spaced
  | push literal isGap _ _ ih =>
    rw [spaced_append, spaced_append]
    exact ⟨⟨literal.spaced, isGap.spaced⟩, ih⟩

/-- **What is laid out is spaced.** -/
theorem QueryLayout.spaced {a : NonemptyList (NonemptyList SignedTerm)} (h : QueryLayout a s) :
    Spaced s := by
  induction h with
  | single leading alternative trailing =>
    rw [spaced_append, spaced_append]
    exact ⟨⟨leading.spaced, alternative.spaced⟩, trailing.spaced⟩
  | push leading alternative trailing _ ih =>
    rw [spaced_append, spaced_append, spaced_append, spaced_cons (by decide)]
    exact ⟨⟨⟨leading.spaced, alternative.spaced⟩, trailing.spaced⟩, ih⟩

/-! ## Queries -/

theorem spaced_of_parse {q : String} {e : Expr} (h : parse q = .ok e) : Spaced q.toList := by
  obtain ⟨a, layout, -⟩ := parse_eq_ok_iff.1 h
  exact layout.spaced

theorem parse_eq_of_respaced {q q' : String} (h : Respaced q.toList q'.toList)
    (spaced : Spaced q.toList) : parse q' = parse q := by
  have length : q'.toList.length = q.toList.length := (List.Forall₂.length_eq h).symm
  have same : Alternatives.ofText q'.toList = Alternatives.ofText q.toList := by
    unfold Alternatives.ofText
    rw [lexemes_respaced h spaced, length]
  have blank : Text.isBlankText q' = Text.isBlankText q := all_isBlank_respaced h
  rw [parse, parse, blank, same]

/-- **Spaces for blank characters.** A text and the same with spaces in the place of some of its
blank characters are the same query, and are refused alike, if the text holds no blank character but
spacing. A text that holds another one is no query, whatever it is with spaces instead. -/
theorem parse_respaced {q q' : String} (h : Respaced q.toList q'.toList) :
    (∀ e, parse q = .ok e ↔ parse q' = .ok e ∧ Spaced q.toList) ∧
    (Spaced q.toList → parse q = parse q') := by
  refine ⟨fun e => ⟨fun read => ?_, fun ⟨read, spaced⟩ => ?_⟩, fun spaced => ?_⟩
  · have spaced := spaced_of_parse read
    rw [parse_eq_of_respaced h spaced]
    exact ⟨read, spaced⟩
  · rwa [← parse_eq_of_respaced h spaced]
  · exact (parse_eq_of_respaced h spaced).symm

/-- A tab between two terms, and a space in its place. -/
theorem parse_respaced_tab :
    Respaced "a\t-b".toList "a -b".toList ∧ Spaced "a\t-b".toList ∧
    parse "a\t-b" = parse "a -b" ∧
    parse "a\t-b" = .ok (.and (.term (.tag "a")) (.not (.term (.tag "b")))) := by
  have respaced : Respaced "a\t-b".toList "a -b".toList := by decide
  have spaced : Spaced "a\t-b".toList := by decide
  obtain ⟨read, same⟩ := parse_respaced respaced
  have words : parse "a -b" = .ok (.and (.term (.tag "a")) (.not (.term (.tag "b")))) := by cbv
  exact ⟨respaced, spaced, same spaced, (read _).2 ⟨words, spaced⟩⟩

/-- A vertical tab is a blank character too, but with one between two tags a text is refused. -/
theorem parse_vertical_tab :
    Respaced "a\x0bb".toList "a b".toList ∧
    parse "a b" = .ok (.and (.term (.tag "a")) (.term (.tag "b"))) ∧
    parse "a\x0bb" = .error (.malformed 1 (.character '\x0b')) :=
  ⟨by decide, by cbv, by cbv⟩

end TagSearch
