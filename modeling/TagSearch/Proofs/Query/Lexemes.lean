import TagSearch.Proofs.Query.Atoms

/-!
# The lexemes of a laid out query

Spacing in front of a text is dropped, a sign is a lexeme of its own, and an atom is one lexeme if
the text behind it does not continue its run.

* `lexemes_gap`, `lexemes_minus`, `lexemes_bar` and `lexemes_atom`: the parts of a layout.
* `exists_run_of_mem_lexemes`: every atom is made from a run.
-/

namespace TagSearch

variable {n : Nat} {s rest : List Char}

theorem lexemes_spacing {c : Char} (h : Text.isSpacing c = true) :
    lexemes n (c :: rest) = lexemes (n + 1) rest := by
  rw [lexemes, if_pos h]

theorem lexemes_gap {gap : List Char} (h : IsGap gap) (n : Nat) :
    lexemes n (gap ++ rest) = lexemes (n + gap.length) rest := by
  induction gap generalizing n with
  | nil => rfl
  | cons c gap ih =>
    rw [List.cons_append, lexemes_spacing (h c List.mem_cons_self),
      ih fun d hd => h d (List.mem_cons_of_mem _ hd), List.length_cons, Nat.add_assoc,
      Nat.add_comm 1]

theorem lexemes_bar : lexemes n ('|' :: rest) = ⟨n, .bar⟩ :: lexemes (n + 1) rest := by
  rw [lexemes, if_neg (by decide), if_neg (by decide), if_pos rfl]

theorem lexemes_minus : lexemes n ('-' :: rest) = ⟨n, .minus⟩ :: lexemes (n + 1) rest := by
  rw [lexemes, if_neg (by decide), if_neg (by decide), if_neg (by decide), if_pos rfl]

/-- **An atom is one lexeme** if the text behind it does not continue its run. -/
theorem lexemes_atom (h : IsAtomText s) (stop : ∀ c ∈ rest.head?, inRun c = false) :
    lexemes n (s ++ rest) = ⟨n, .atom (Atom.ofRun s)⟩ :: lexemes (n + s.length) rest := by
  obtain ⟨c, run, rfl⟩ := List.exists_cons_of_ne_nil h.ne
  obtain ⟨blank, bar⟩ := h.run c List.mem_cons_self
  have minus : c ≠ '-' := fun e => h.plain (by rw [e]; rfl)
  have spacing : Text.isSpacing c ≠ true := fun e => by
    rw [Text.isBlank_of_isSpacing e] at blank
    cases blank
  have inside : ∀ d ∈ run, inRun d = true := fun d hd =>
    inRun_iff.2 (h.run d (List.mem_cons_of_mem _ hd))
  rw [List.cons_append, lexemes, if_neg spacing, if_neg (by simp [blank]), if_neg bar,
    if_neg minus]
  dsimp only
  rw [takeWhile_append_of_head? inside stop, dropWhile_append_of_head? inside stop,
    List.length_cons, Nat.add_assoc, Nat.add_comm 1]

/-- The run at the start of a text that starts with neither a blank character nor a sign. -/
theorem isAtomText_takeWhile {c : Char} (blank : Text.isBlank c ≠ true) (bar : c ≠ '|')
    (minus : c ≠ '-') (rest : List Char) : IsAtomText (c :: rest.takeWhile inRun) where
  run d hd := by
    rcases List.mem_cons.1 hd with rfl | hd
    · exact ⟨by simpa using blank, bar⟩
    · exact inRun_iff.1 (List.mem_takeWhile_imp hd)
  ne := List.cons_ne_nil _ _
  plain e := minus (Option.some.inj e)

theorem exists_run_of_mem_lexemes {x : Lexeme} {a : Atom} (h : x ∈ lexemes n s)
    (atom : x.token = .atom a) : ∃ run, IsAtomText run ∧ a = Atom.ofRun run := by
  fun_induction lexemes n s with
  | case1 => cases h
  | case2 n c rest _ ih => exact ih h
  | case3 n c rest _ _ ih =>
    rcases List.mem_cons.1 h with rfl | h
    · cases atom
    · exact ih h
  | case4 n rest _ _ ih =>
    rcases List.mem_cons.1 h with rfl | h
    · cases atom
    · exact ih h
  | case5 n rest _ _ _ ih =>
    rcases List.mem_cons.1 h with rfl | h
    · cases atom
    · exact ih h
  | case6 n c rest _ blank bar minus run ih =>
    rcases List.mem_cons.1 h with rfl | h
    · exact ⟨_, isAtomText_takeWhile blank bar minus rest, (Token.atom.inj atom).symm⟩
    · exact ih h

end TagSearch
