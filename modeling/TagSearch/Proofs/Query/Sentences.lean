import TagSearch.Query.Sentence

/-!
# Sentences from the left

Whether pieces are a sentence is settled piece by piece: what may stand behind a piece depends on
that piece only. From this it follows what a sentence may start with.

* `isSentence_atom_iff` and `isSentence_minus_iff`: what stands behind the first piece of a
  sentence.
* `isContinuable_congr`: pieces that may be followed by the same.
-/

namespace TagSearch

variable {a : Atom} {l r : List Token} {t : Token}

/-! ## Alternatives -/

/-- An alternative starts with an atom, or with a negation sign and an atom. -/
theorem AlternativeTokens.starts (h : AlternativeTokens l) :
    ∃ a r, l = .atom a :: r ∨ l = .minus :: .atom a :: r := by
  cases h with
  | single literal =>
    cases literal with
    | plain a => exact ⟨a, [], Or.inl rfl⟩
    | negated a => exact ⟨a, [], Or.inr rfl⟩
  | cons literal more =>
    cases literal with
    | plain a => exact ⟨a, _, Or.inl rfl⟩
    | negated a => exact ⟨a, _, Or.inr rfl⟩

/-- Behind an atom an alternative ends, or another one may stand. -/
theorem alternativeTokens_atom_iff :
    AlternativeTokens (.atom a :: l) ↔ l = [] ∨ AlternativeTokens l := by
  constructor
  · generalize e : Token.atom a :: l = s
    intro h
    cases h with
    | single literal =>
      cases literal with
      | plain => exact Or.inl (List.cons.inj e).2
      | negated => cases e
    | cons literal more =>
      cases literal with
      | plain => exact Or.inr ((List.cons.inj e).2 ▸ more)
      | negated => cases e
  · rintro (rfl | more)
    · exact .single (.plain a)
    · exact .cons (.plain a) more

/-- A negation sign changes nothing in front of an atom, and stands nowhere else. -/
theorem alternativeTokens_minus_iff :
    AlternativeTokens (.minus :: l) ↔ ∃ a r, l = .atom a :: r ∧ AlternativeTokens l := by
  constructor
  · generalize e : Token.minus :: l = s
    intro h
    cases h with
    | single literal =>
      cases literal with
      | plain => cases e
      | negated a =>
        obtain rfl := (List.cons.inj e).2
        exact ⟨a, [], rfl, .single (.plain a)⟩
    | cons literal more =>
      cases literal with
      | plain => cases e
      | negated a =>
        obtain rfl := (List.cons.inj e).2
        exact ⟨a, _, rfl, .cons (.plain a) more⟩
  · rintro ⟨a, r, rfl, h⟩
    rcases alternativeTokens_atom_iff.1 h with rfl | more
    · exact .single (.negated a)
    · exact .cons (.negated a) more

/-! ## Sentences -/

/-- A sentence starts as an alternative does. -/
theorem IsSentence.starts (h : IsSentence l) :
    ∃ a r, l = .atom a :: r ∨ l = .minus :: .atom a :: r := by
  cases h with
  | single alternative => exact alternative.starts
  | cons alternative more =>
    obtain ⟨a, r, rfl | rfl⟩ := alternative.starts
    · exact ⟨a, _, Or.inl rfl⟩
    · exact ⟨a, _, Or.inr rfl⟩

/-- A literal may stand in front of a sentence, as a part of its first alternative. -/
theorem IsSentence.afterLiteral (literal : LiteralTokens l) (h : IsSentence r) :
    IsSentence (l ++ r) := by
  cases h with
  | single alternative => exact .single (.cons literal alternative)
  | cons alternative more =>
    rw [← List.append_assoc]
    exact .cons (.cons literal alternative) more

/-- **Behind an atom** a sentence ends, or another one may stand, or a bar and another one. -/
theorem isSentence_atom_iff :
    IsSentence (.atom a :: l) ↔ l = [] ∨ IsSentence l ∨ ∃ r, l = .bar :: r ∧ IsSentence r := by
  constructor
  · generalize e : Token.atom a :: l = s
    intro h
    cases h with
    | single alternative =>
      subst e
      exact (alternativeTokens_atom_iff.1 alternative).imp_right fun rest => Or.inl (.single rest)
    | @cons first others alternative more =>
      obtain ⟨b, r, rfl | rfl⟩ := alternative.starts
      · obtain rfl := (List.cons.inj e).2
        rcases alternativeTokens_atom_iff.1 alternative with rfl | rest
        · exact Or.inr (Or.inr ⟨others, rfl, more⟩)
        · exact Or.inr (Or.inl (.cons rest more))
      · cases e
  · rintro (rfl | rest | ⟨r, rfl, rest⟩)
    · exact .single (.single (.plain a))
    · exact rest.afterLiteral (.plain a)
    · exact .cons (.single (.plain a)) rest

/-- **A negation sign** changes nothing in front of an atom, and stands nowhere else. -/
theorem isSentence_minus_iff :
    IsSentence (.minus :: l) ↔ ∃ a r, l = .atom a :: r ∧ IsSentence l := by
  constructor
  · generalize e : Token.minus :: l = s
    intro h
    cases h with
    | single alternative =>
      subst e
      obtain ⟨a, r, rfl, rest⟩ := alternativeTokens_minus_iff.1 alternative
      exact ⟨a, r, rfl, .single rest⟩
    | cons alternative more =>
      obtain ⟨b, r, rfl | rfl⟩ := alternative.starts
      · cases e
      · obtain rfl := (List.cons.inj e).2
        obtain ⟨_, _, _, rest⟩ := alternativeTokens_minus_iff.1 alternative
        exact ⟨b, _, rfl, .cons rest more⟩
  · rintro ⟨a, r, rfl, h⟩
    rcases isSentence_atom_iff.1 h with rfl | rest | ⟨others, rfl, rest⟩
    · exact .single (.single (.negated a))
    · exact rest.afterLiteral (.negated a)
    · exact .cons (.single (.negated a)) rest

theorem not_isSentence_nil : ¬ IsSentence [] := by
  intro h
  obtain ⟨a, r, e | e⟩ := h.starts <;> cases e

theorem not_isSentence_bar : ¬ IsSentence (.bar :: l) := by
  intro h
  obtain ⟨a, r, e | e⟩ := h.starts <;> cases e

theorem not_isSentence_stray {c : Char} : ¬ IsSentence (.stray c :: l) := by
  intro h
  obtain ⟨a, r, e | e⟩ := h.starts <;> cases e

/-- Behind an atom, what is no bar belongs to the same alternative. -/
theorem isSentence_atom_cons_iff (h : t ≠ .bar) :
    IsSentence (.atom a :: t :: l) ↔ IsSentence (t :: l) := by
  refine isSentence_atom_iff.trans ⟨?_, fun rest => Or.inr (Or.inl rest)⟩
  rintro (e | rest | ⟨_, e, _⟩)
  · cases e
  · exact rest
  · exact absurd (List.cons.inj e).1 h

/-- Behind an atom and a bar stands another sentence. -/
theorem isSentence_atom_bar_iff : IsSentence (.atom a :: .bar :: l) ↔ IsSentence l := by
  refine isSentence_atom_iff.trans ⟨?_, fun rest => Or.inr (Or.inr ⟨l, rfl, rest⟩)⟩
  rintro (e | rest | ⟨_, e, rest⟩)
  · cases e
  · exact absurd rest not_isSentence_bar
  · obtain rfl := (List.cons.inj e).2
    exact rest

/-! ## What a sentence may start with -/

theorem IsSentence.isContinuable (h : IsSentence l) : IsContinuable l :=
  ⟨[], by rwa [List.append_nil]⟩

theorem isContinuable_nil : IsContinuable [] :=
  ⟨[.atom (.word "")], .single (.single (.plain _))⟩

theorem isContinuable_minus : IsContinuable [.minus] :=
  ⟨[.atom (.word "")], .single (.single (.negated _))⟩

theorem isSentence_atom : IsSentence [.atom a] := .single (.single (.plain a))

/-- **Pieces that may be followed by the same** are continuable together. -/
theorem isContinuable_congr {l₁ l₂ : List Token}
    (same : ∀ r, IsSentence (l₁ ++ r) ↔ IsSentence (l₂ ++ r)) (l : List Token) :
    IsContinuable (l₁ ++ l) ↔ IsContinuable (l₂ ++ l) := by
  refine exists_congr fun r => ?_
  rw [List.append_assoc, List.append_assoc]
  exact same (l ++ r)

/-- A piece cannot stand where no sentence has it. -/
theorem not_isContinuable (never : ∀ r, ¬ IsSentence (l ++ t :: r)) :
    ¬ IsContinuable (l ++ [t]) := by
  rintro ⟨r, h⟩
  rw [List.append_assoc] at h
  exact never r h

end TagSearch
