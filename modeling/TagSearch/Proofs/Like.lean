import TagSearch.Expr.Meaning
import Mathlib.Data.List.Infix
import Mathlib.Data.List.TakeWhile

/-!
# Patterns of literal text

A text that is escaped matches literally: it takes from the path a piece of its own length that is
equal to it up to the case of ASCII letters, and the rest of the pattern matches the rest of the
path. The wildcards that a mode adds then leave open what stands before or behind that piece.

* `Like.accepts_escape_append`: an escaped text in front of a pattern matches itself.
* `Like.accepts_percent`: a `%` matches any run.
* `Like.acceptsPath_pattern_iff`: the pattern of a mode matches what the mode means.
-/

namespace TagSearch.Like

variable {esc : Char} {pattern text : List Char}

/-! ## One character of a pattern -/

theorem sameLetter_iff {a b : Char} :
    sameLetter a b = true ↔ (readable b).toLower = (readable a).toLower := by
  rw [sameLetter, beq_iff_eq, eq_comm]

theorem accepts_nil : accepts esc [] text = true ↔ text = [] := by
  rw [accepts, List.isEmpty_iff]

/-- An escaped character matches itself. -/
theorem accepts_escaped {q : Char} : accepts esc (esc :: q :: pattern) text = true ↔
    ∃ c u, text = c :: u ∧ folded [c] = folded [q] ∧ accepts esc pattern u = true := by
  cases text with
  | nil => simp [accepts]
  | cons c u => simp [accepts, sameLetter_iff, folded]

/-- A character that is neither the escape character nor a wildcard matches itself. -/
theorem accepts_letter {q : Char} (plain : ¬ (q = esc ∨ q = '%' ∨ q = '_')) :
    accepts esc (q :: pattern) text = true ↔
      ∃ c u, text = c :: u ∧ folded [c] = folded [q] ∧ accepts esc pattern u = true := by
  simp only [not_or] at plain
  obtain ⟨he, hp, hu⟩ := plain
  rw [accepts.eq_def]
  cases text with
  | nil => simp [he, hp]
  | cons c u => simp [he, hp, hu, sameLetter_iff, folded]

/-- A `%` matches any run. -/
theorem accepts_percent (h : esc ≠ '%') : accepts esc ('%' :: pattern) text = true ↔
    ∃ t u, text = t ++ u ∧ accepts esc pattern u = true := by
  induction text with
  | nil =>
    rw [accepts.eq_def]
    simp [h.symm, and_assoc]
  | cons c text ih =>
    rw [accepts.eq_def]
    simp only [h.symm, if_false, if_true, Bool.or_eq_true, ih]
    constructor
    · rintro (here | ⟨t, u, rfl, later⟩)
      · exact ⟨[], c :: text, rfl, here⟩
      · exact ⟨c :: t, u, rfl, later⟩
    · rintro ⟨_ | ⟨d, t⟩, u, split, later⟩
      · exact Or.inl (by rw [split]; exact later)
      · exact Or.inr ⟨t, u, (List.cons.inj split).2, later⟩

/-! ## Escaped texts -/

/-- **An escaped text matches literally**, and the pattern behind it matches the rest. -/
theorem accepts_escape_append (s : List Char) : accepts esc (escape esc s ++ pattern) text = true ↔
    ∃ t u, text = t ++ u ∧ folded t = folded s ∧ accepts esc pattern u = true := by
  induction s generalizing text with
  | nil => simp [escape, folded]
  | cons q s ih =>
    -- Escaped or not, the character at the front takes one character of the text.
    have front : accepts esc (escape esc (q :: s) ++ pattern) text = true ↔
        ∃ c u, text = c :: u ∧ folded [c] = folded [q] ∧
          accepts esc (escape esc s ++ pattern) u = true := by
      by_cases special : q = esc ∨ q = '%' ∨ q = '_'
      · have : escape esc (q :: s) = esc :: q :: escape esc s := by
          simp [escape, or_assoc, special]
        rw [this, List.cons_append, List.cons_append, accepts_escaped]
      · have : escape esc (q :: s) = q :: escape esc s := by
          simp [escape, or_assoc, special]
        rw [this, List.cons_append, accepts_letter special]
    rw [front]
    constructor
    · rintro ⟨c, v, rfl, hc, hv⟩
      obtain ⟨t, u, rfl, ht, hu⟩ := ih.1 hv
      exact ⟨c :: t, u, rfl, by simpa [folded] using ⟨by simpa [folded] using hc, ht⟩, hu⟩
    · rintro ⟨_ | ⟨c, t⟩, u, rfl, ht, hu⟩
      · simp [folded] at ht
      · simp only [folded, List.map_cons, List.cons.injEq] at ht
        exact ⟨c, t ++ u, rfl, by simpa [folded] using ht.1, ih.2 ⟨t, u, rfl, ht.2, hu⟩⟩

theorem accepts_escape (s : List Char) :
    accepts esc (escape esc s) text = true ↔ folded text = folded s := by
  have whole := @accepts_escape_append esc [] text s
  simpa [accepts_nil] using whole

theorem accepts_escape_percent (h : esc ≠ '%') (s : List Char) :
    accepts esc (escape esc s ++ ['%']) text = true ↔ folded s <+: folded text := by
  rw [accepts_escape_append]
  simp only [accepts_percent h, accepts_nil]
  constructor
  · rintro ⟨t, u, rfl, ht, -⟩
    rw [← ht, folded, folded, List.map_append]
    exact List.prefix_append _ _
  · rintro ⟨v, hv⟩
    obtain ⟨t, u, rfl, ht, -⟩ := List.append_eq_map_iff.1 hv
    exact ⟨t, u, rfl, ht, u, [], (List.append_nil u).symm, rfl⟩

theorem accepts_percent_escape_percent (h : esc ≠ '%') (s : List Char) :
    accepts esc ('%' :: escape esc s ++ ['%']) text = true ↔ folded s <:+: folded text := by
  rw [List.cons_append, accepts_percent h]
  simp only [accepts_escape_percent h, List.infix_iff_prefix_suffix]
  constructor
  · rintro ⟨t, u, rfl, hu⟩
    exact ⟨folded u, hu, by rw [folded, folded, List.map_append]; exact List.suffix_append _ _⟩
  · rintro ⟨v, hv, w, hw⟩
    obtain ⟨t, u, rfl, -, hu⟩ := List.append_eq_map_iff.1 hw
    exact ⟨t, u, rfl, by rw [← hu] at hv; exact hv⟩

/-! ## Paths -/

/-- A text without NUL is compared as a whole. -/
theorem visible_eq_self {s : List Char} (h : '\x00' ∉ s) : visible s = s :=
  List.takeWhile_eq_self_iff.2 fun c hc => by
    rw [bne_iff_ne]
    rintro rfl
    exact h hc

theorem not_mem_escape {c : Char} {s : List Char} (he : c ≠ esc) (h : c ∉ s) :
    c ∉ escape esc s := by
  rw [escape, List.mem_flatMap]
  rintro ⟨d, hd, hc⟩
  have hcd : c ≠ d := fun e => h (e ▸ hd)
  split at hc <;> simp [he, hcd] at hc

theorem nul_not_mem_pattern (m : PathMatch) {s : String} (h : '\x00' ∉ s.toList) :
    '\x00' ∉ (m.pattern s).toList := by
  have inside : '\x00' ∉ escape escapeChar s.toList := not_mem_escape (by decide) h
  cases m <;> simp [PathMatch.pattern, inside]

/-- **The pattern of a mode matches the paths that the mode means**, both as patterns are read. -/
theorem acceptsPath_pattern_iff (m : PathMatch) {s path : String} (hs : '\x00' ∉ s.toList)
    (hp : '\x00' ∉ path.toList) :
    acceptsPath (m.pattern s) path = true ↔ m.Matches (readableText s) (readableText path) := by
  have h : escapeChar ≠ '%' := by decide
  rw [acceptsPath, visible_eq_self (nul_not_mem_pattern m hs), visible_eq_self hp,
    PathMatch.Matches, foldCase_readableText, foldCase_readableText]
  cases m with
  | whole => rw [PathMatch.pattern, String.toList_ofList, accepts_escape]; rfl
  | start => rw [PathMatch.pattern, String.toList_ofList, accepts_escape_percent h]; rfl
  | anywhere => rw [PathMatch.pattern, String.toList_ofList, accepts_percent_escape_percent h]; rfl

end TagSearch.Like
