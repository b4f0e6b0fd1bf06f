import Mathlib.Data.List.Basic
import TagSearch.Proofs.Lists
import TagSearch.Toml.Scan
import TagSearch.Toml.Writer

/-!
# Reading texts and keys back

Whatever characters a text holds, it is read back from how it is written: a character that has a
meaning of its own between quotes, or may not stand there, is written as an escape, and every other
one as it is. A key that needs no quotes is read up to the first character that cannot continue it.

* `readBasic_writeChar`: a character is read back, whatever follows.
* `readText_writeText`: a text is read back.
* `readKey_of_isBare`: a key is read back.
-/

namespace TagSearch.Toml

variable {s rest t : List Char} {c d : Char}

/-! ## Characters between quotes -/

/-- A character that is written as it is. -/
theorem readBasic_cons (quote : c ≠ '"') (backslash : c ≠ '\\') (plain : isPlain false c = true) :
    readBasic (c :: s) = (readBasic s).map fun (t, rest) => (c :: t, rest) := by
  rw [readBasic.eq_def]
  split
  · contradiction
  · rename_i same
    exact (quote (List.cons.inj same).1).elim
  · rename_i same
    exact (backslash (List.cons.inj same).1).elim
  · rename_i same
    obtain ⟨rfl, rfl⟩ := List.cons.inj same
    rw [if_pos plain]

/-- An escape that stands for a character. -/
theorem readBasic_escape (h : readEscape false s = .ok ([c], t)) :
    readBasic ('\\' :: s) = (readBasic t).map fun (u, rest) => (c :: u, rest) := by
  rw [readBasic]
  split
  · rename_i e
    rw [h] at e
    cases e
  · rename_i e
    rw [h] at e
    cases e
    rfl

/-- A letter behind a backslash. -/
theorem readEscape_letter (h : escaped? d = some c) :
    readEscape false (d :: s) = .ok ([c], s) := by
  have narrow : d ≠ 'u' := by rintro rfl; cases h
  have wide : d ≠ 'U' := by rintro rfl; cases h
  simp only [readEscape, if_neg narrow, if_neg wide, Bool.false_and, Bool.false_eq_true, if_false,
    h]

/-- The number of a character below 256 in four digits. -/
theorem charOfHex?_hexDigits (h : c.toNat < 256) :
    charOfHex? ['0', '0', Text.hexDigit 'a' (c.toNat / 16), Text.hexDigit 'a' (c.toNat % 16)] =
      some c := by
  have zero : Text.hexValue? '0' = some 0 := rfl
  have values : ['0', '0', Text.hexDigit 'a' (c.toNat / 16), Text.hexDigit 'a' (c.toNat % 16)].mapM
      Text.hexValue? = some [0, 0, c.toNat / 16, c.toNat % 16] := by
    simp only [List.mapM_cons, List.mapM_nil, zero, Text.hexValue?_hexDigit
      (show c.toNat / 16 < 16 by omega), Text.hexValue?_hexDigit (Nat.mod_lt c.toNat (by omega)),
      Option.bind_eq_bind, Option.bind_some, Option.pure_def]
  have whole : [0, 0, c.toNat / 16, c.toNat % 16].foldl (fun n d => 16 * n + d) 0 = c.toNat := by
    simp only [List.foldl_cons, List.foldl_nil]
    omega
  have char (n : Nat) (same : n = c.toNat) :
      (if h : n.isValidChar then some (Char.ofNatAux n h) else none) = some c := by
    subst same
    rw [dif_pos (show c.toNat.isValidChar from c.valid)]
    exact congrArg some (Char.ext rfl)
  rw [charOfHex?, values]
  exact char _ whole

theorem readEscape_hexDigits (h : c.toNat < 256) :
    readEscape false ('u' :: '0' :: '0' :: Text.hexDigit 'a' (c.toNat / 16) ::
      Text.hexDigit 'a' (c.toNat % 16) :: s) = .ok ([c], s) := by
  rw [readEscape, if_pos rfl, readHex]
  simp only [List.take_succ_cons, List.take_zero, charOfHex?_hexDigits h, List.length_cons,
    List.drop_succ_cons, List.drop_zero]
  rw [if_pos (by omega)]

/-- **A character is read back from how it is written**, whatever follows. -/
theorem readBasic_writeChar (c : Char) (s : List Char) :
    readBasic (writeChar c ++ s) = (readBasic s).map fun (t, rest) => (c :: t, rest) := by
  rw [writeChar]
  split
  · rename_i special
    rcases special with rfl | rfl <;> exact readBasic_escape (readEscape_letter rfl)
  rename_i ordinary
  split
  · subst_vars
    exact readBasic_escape (readEscape_letter rfl)
  split
  · subst_vars
    exact readBasic_escape (readEscape_letter rfl)
  split
  · subst_vars
    exact readBasic_escape (readEscape_letter rfl)
  split
  · subst_vars
    exact readBasic_escape (readEscape_letter rfl)
  split
  · rename_i control
    exact readBasic_escape (readEscape_hexDigits (by omega))
  · rename_i printed
    obtain ⟨quote, backslash⟩ := not_or.1 ordinary
    refine readBasic_cons quote backslash ?_
    have tab : c.toNat < 32 → c = '\t' := by
      intro small
      by_contra other
      exact printed (Or.inl ⟨small, other⟩)
    by_cases small : c.toNat < 32
    · rw [tab small]
      rfl
    · simp only [isPlain, isControl, Bool.or_eq_true, Bool.not_eq_true', Bool.or_eq_false_iff,
        decide_eq_false_iff_not, beq_eq_false_iff_ne]
      exact Or.inl (Or.inl ⟨small, fun delete => printed (Or.inr delete)⟩)

/-- The characters of a text up to the closing quote. -/
theorem readBasic_flatMap_writeChar (t rest : List Char) :
    readBasic (t.flatMap writeChar ++ '"' :: rest) = .ok (t, rest) := by
  induction t with
  | nil => rw [List.flatMap_nil, List.nil_append, readBasic]
  | cons c t ih =>
    rw [List.flatMap_cons, List.append_assoc, readBasic_writeChar, ih]
    rfl

/-- No character is written so that it could be taken for the closing quote. -/
theorem exists_writeChar_eq_cons (c : Char) : ∃ d r, writeChar c = d :: r ∧ d ≠ '"' := by
  rw [writeChar]
  split
  · exact ⟨_, _, rfl, by decide⟩
  rename_i ordinary
  repeat' split
  all_goals first
    | exact ⟨_, _, rfl, by decide⟩
    | exact ⟨_, _, rfl, (not_or.1 ordinary).1⟩

/-- **A text is read back from how it is written.** -/
theorem readText_writeText (s : String) (next : ∀ c ∈ rest.head?, c ≠ '"') :
    readText (writeText s ++ rest) = .ok (s.toList, rest) := by
  have body : readText (writeText s ++ rest) =
      readBasic (s.toList.flatMap writeChar ++ '"' :: rest) := by
    simp only [writeText, List.cons_append, List.append_assoc, List.nil_append]
    -- Three quotes would open a long text, but at most the first two characters can be quotes.
    cases chars : s.toList with
    | nil =>
      rw [List.flatMap_nil, List.nil_append]
      cases rest with
      | nil => rfl
      | cons c rest =>
        have other := next c rfl
        rw [readText.eq_def]
        split
        · rename_i same
          simp only [List.cons.injEq, true_and] at same
          exact (other same.1).elim
        all_goals simp_all
    | cons c t =>
      obtain ⟨d, r, first, other⟩ := exists_writeChar_eq_cons c
      rw [List.flatMap_cons, first]
      simp only [List.cons_append]
      rw [readText.eq_def]
      split
      · rename_i same
        simp only [List.cons.injEq, true_and] at same
        exact (other same.1).elim
      all_goals simp_all
  rw [body, readBasic_flatMap_writeChar]

/-! ## Keys -/

/-- A key that needs no quotes. -/
structure IsBare (key : String) : Prop where
  nonempty : key ≠ ""
  plain : ∀ c ∈ key.toList, isBareKey c = true

instance (key : String) : Decidable (IsBare key) :=
  decidable_of_iff (key ≠ "" ∧ key.toList.all isBareKey = true)
    ⟨fun h => ⟨h.1, List.all_eq_true.1 h.2⟩, fun h => ⟨h.1, List.all_eq_true.2 h.2⟩⟩

/-- The first character of a key. -/
theorem IsBare.exists_cons {key : String} (h : IsBare key) :
    ∃ c t, key.toList = c :: t ∧ isBareKey c = true := by
  cases chars : key.toList with
  | nil => exact (h.nonempty (String.toList_inj.1 chars)).elim
  | cons c t => exact ⟨c, t, rfl, h.plain c (by rw [chars]; exact List.mem_cons_self)⟩

theorem readKeyPart_of_isBare {key : String} (h : IsBare key)
    (stop : ∀ c ∈ rest.head?, isBareKey c = false) :
    readKeyPart (key.toList ++ rest) = .ok (key, skipSpaces rest) := by
  obtain ⟨c, t, chars, first⟩ := h.exists_cons
  have run : (key.toList ++ rest).takeWhile isBareKey = key.toList :=
    takeWhile_append_of_head? h.plain stop
  have after : (key.toList ++ rest).dropWhile isBareKey = rest :=
    dropWhile_append_of_head? h.plain stop
  have unquoted {q : Char} (other : isBareKey q = false) (r : List Char) :
      key.toList ++ rest ≠ q :: r := by
    rw [chars, List.cons_append]
    intro same
    obtain ⟨rfl, -⟩ := List.cons.inj same
    exact absurd (first.symm.trans other) (by decide)
  rw [readKeyPart, run, after, if_neg (by simp [chars])]
  · simp [Except.map]
  · exact unquoted rfl
  · exact unquoted rfl

/-- **A key is read back**, up to a character that cannot continue it. -/
theorem readKey_of_isBare {key : String} (h : IsBare key)
    (stop : ∀ c ∈ rest.head?, isBareKey c = false)
    (last : ∀ c ∈ (skipSpaces rest).head?, c ≠ '.') :
    readKey (key.toList ++ rest) = .ok ([key], skipSpaces rest) := by
  rw [readKey, readKeyParts, readKeyPart_of_isBare h stop]
  dsimp only [bind, Except.bind]
  split
  · rename_i same
    exact (last '.' (by rw [same]; rfl) rfl).elim
  · rfl

end TagSearch.Toml
