import TagSearch.Proofs.Toml.Texts
import TagSearch.Toml.Document

/-!
# Reading values back

A number, text or truth value that ends its line is read back from how it is written. What could
take it for something else is ruled out by its characters: a date or a time needs a hyphen or a
colon among its first digits, a number to another base a letter behind a zero.

* `readMoment?_decimalInt`: a number is no date and no time.
* `readNumber?_decimalInt`: a number is read back, if it has no more digits than are read.
* `readScalar_write`: a value is read back.
-/

namespace TagSearch.Toml

variable {ds : List Char} {c : Char}

/-! ## Digits -/

theorem ne_of_isDigit {d : Char} (digit : d.isDigit = true) (other : c.isDigit = false) :
    d ≠ c := by
  rintro rfl
  exact absurd (digit.symm.trans other) (by decide)

/-- Digits are read up to the end of their line. -/
theorem digitRun_append (digits : ∀ d ∈ ds, d.isDigit = true) (rest : List Char) :
    digitRun Char.isDigit (ds ++ '\n' :: rest) = (ds, '\n' :: rest) := by
  induction ds with
  | nil =>
    rw [List.nil_append, digitRun.eq_def]
    rfl
  | cons d ds ih =>
    obtain ⟨first, digits⟩ := List.forall_mem_cons.1 digits
    rw [List.cons_append, digitRun]
    · rw [if_pos first, ih digits]
    · exact fun _ _ underscore => (ne_of_isDigit first rfl underscore).elim

theorem digits?_append (digits : ∀ d ∈ ds, d.isDigit = true) (nonempty : ds ≠ [])
    (rest : List Char) :
    digits? Char.isDigit (ds ++ '\n' :: rest) = some (ds, '\n' :: rest) := by
  obtain ⟨d, ds, rfl⟩ := List.exists_cons_of_ne_nil nonempty
  have run := digitRun_append digits rest
  rw [List.cons_append] at run ⊢
  rw [digits?, if_pos (digits d List.mem_cons_self), run]

/-- The first character of a number. -/
theorem exists_decimal_isDigit (n : Nat) :
    ∃ c t, Text.decimal n = c :: t ∧ c.isDigit = true ∧ (n ≠ 0 → c ≠ '0') := by
  rcases Nat.eq_zero_or_pos n with rfl | positive
  · exact ⟨'0', [], by rw [Text.decimal]; rfl, rfl, fun h => (h rfl).elim⟩
  · obtain ⟨c, t, first, nonzero⟩ := Text.exists_decimal_eq_cons positive
    refine ⟨c, t, first, Text.isDigit_of_mem_decimal (n := n) ?_, fun _ => nonzero⟩
    rw [first]
    exact List.mem_cons_self

/-! ## No date and no time -/

/-- Digits on a line are followed by a digit or by the end of the line. -/
theorem after?_of_field? (digits : ∀ d ∈ ds, d.isDigit = true) {rest r : List Char}
    {width low high n : Nat} (h : field? width low high (ds ++ '\n' :: rest) = some (n, r))
    (other : c.isDigit = false) (stop : c ≠ '\n') : after? c r = none := by
  rw [field?] at h
  split at h
  · rename_i good
    obtain ⟨-, all, -⟩ := good
    obtain ⟨-, rfl⟩ := Prod.mk.inj (Option.some.inj h)
    have inside : width ≤ ds.length := by
      by_contra beyond
      obtain ⟨k, rfl⟩ := Nat.exists_eq_add_of_lt (not_le.1 beyond)
      have stopped : '\n' ∈ (ds ++ '\n' :: rest).take (ds.length + k + 1) := by
        rw [Nat.add_assoc, List.take_length_add_append, List.take_succ_cons]
        exact List.mem_append_right _ List.mem_cons_self
      exact absurd (List.all_eq_true.1 all _ stopped) (by decide)
    rw [List.drop_append_of_le_length inside]
    cases left : ds.drop width with
    | nil => exact if_neg stop.symm
    | cons d left' =>
      have mem : d ∈ ds := (List.drop_sublist width ds).subset (left ▸ List.mem_cons_self)
      exact if_neg (ne_of_isDigit (digits d mem) other)
  · cases h

/-- A field starts with a digit. -/
theorem field?_of_head {s : List Char} {width low high : Nat} (other : c.isDigit = false) :
    field? (width + 1) low high (c :: s) = none := by
  refine if_neg fun good => ?_
  rw [List.take_succ_cons, List.all_cons, other] at good
  exact absurd good.2.1 (by simp)

/-- A moment has a hyphen or a colon behind its first field. -/
theorem readMoment?_of_field? {s : List Char}
    (year : ∀ n r, field? 4 0 9999 s = some (n, r) → after? '-' r = none)
    (hour : ∀ n r, field? 2 0 23 s = some (n, r) → after? ':' r = none) :
    readMoment? s = none := by
  have date : readDate? s = none := by
    rw [readDate?]
    cases found : field? 4 0 9999 s with
    | none => rfl
    | some p =>
      obtain ⟨n, r⟩ := p
      simp [year n r found]
  have time : skipTime? s = none := by
    rw [skipTime?]
    cases found : field? 2 0 23 s with
    | none => rfl
    | some p =>
      obtain ⟨n, r⟩ := p
      simp [hour n r found]
  rw [readMoment?, date, time]
  rfl

/-- **A number is no date and no time.** -/
theorem readMoment?_decimalInt (n : Int) (rest : List Char) :
    readMoment? (Text.decimalInt n ++ '\n' :: rest) = none := by
  cases n with
  | ofNat n =>
    have digits : ∀ d ∈ Text.decimal n, d.isDigit = true := fun _ => Text.isDigit_of_mem_decimal
    exact readMoment?_of_field? (fun _ _ h => after?_of_field? digits h rfl (by decide))
      fun _ _ h => after?_of_field? digits h rfl (by decide)
  | negSucc n =>
    refine readMoment?_of_field? (fun k r h => ?_) fun k r h => ?_
    all_goals
      rw [Text.decimalInt, List.cons_append, field?_of_head rfl] at h
      cases h

/-! ## Numbers -/

/-- A number whose digits are no more than are read. -/
def IsShort (n : Int) : Prop := (Text.decimal n.natAbs).length ≤ maxDigits

theorem readBased?_decimalInt (n : Int) (rest : List Char) :
    readBased? (Text.decimalInt n ++ '\n' :: rest) = none := by
  cases n with
  | ofNat n =>
    obtain ⟨c, t, first, -, nonzero⟩ := exists_decimal_isDigit n
    rw [Text.decimalInt]
    by_cases zero : n = 0
    · subst zero
      rw [Text.decimal]
      rfl
    · rw [first, List.cons_append, readBased?.eq_def]
      split
      · rename_i same
        exact (nonzero zero (List.cons.inj same).1).elim
      · rfl
  | negSucc n => rfl

theorem readWhole?_decimal (n : Nat) (rest : List Char) :
    readWhole? (Text.decimal n ++ '\n' :: rest) = some (Text.decimal n, '\n' :: rest) := by
  obtain ⟨c, t, first, -, nonzero⟩ := exists_decimal_isDigit n
  by_cases zero : n = 0
  · subst zero
    rw [Text.decimal]
    rfl
  · have run : digits? Char.isDigit (Text.decimal n ++ '\n' :: rest) =
        some (Text.decimal n, '\n' :: rest) :=
      digits?_append (fun _ => Text.isDigit_of_mem_decimal) (by simp [first]) rest
    rw [first, List.cons_append] at run ⊢
    rw [readWhole?.eq_def]
    split
    · rename_i same
      exact (nonzero zero (List.cons.inj same).1).elim
    · exact run

/-- The sign of a number, and its digits. -/
theorem readSign_decimalInt (n : Int) (rest : List Char) :
    readSign (Text.decimalInt n ++ rest) =
      (if n < 0 then some '-' else none, Text.decimal n.natAbs ++ rest) := by
  cases n with
  | ofNat n =>
    obtain ⟨c, t, first, digit, -⟩ := exists_decimal_isDigit n
    have positive : ¬ Int.ofNat n < 0 := Int.not_lt.2 (Int.natCast_nonneg n)
    have same : (Int.ofNat n).natAbs = n := rfl
    rw [Text.decimalInt, if_neg positive, same, first, List.cons_append, readSign.eq_def]
    split
    · rename_i same
      exact (ne_of_isDigit digit rfl (List.cons.inj same).1).elim
    · rename_i same
      exact (ne_of_isDigit digit rfl (List.cons.inj same).1).elim
    · rfl
  | negSucc n =>
    rw [if_pos (Int.negSucc_lt_zero n)]
    rfl

/-- **A number is read back**, if it has no more digits than are read. -/
theorem readNumber?_decimalInt {n : Int} (short : IsShort n) (rest : List Char) :
    readNumber? (Text.decimalInt n ++ '\n' :: rest) = some (.ok (.integer n), '\n' :: rest) := by
  have whole : skipExponent (skipFraction ('\n' :: rest)) = '\n' :: rest := rfl
  have value : (if (if n < 0 then some '-' else none) = some '-' then
      -(Text.ofDigits 10 Text.digitValue (Text.decimal n.natAbs) : Int)
      else (Text.ofDigits 10 Text.digitValue (Text.decimal n.natAbs) : Int)) = n := by
    rw [Text.ofDigits_decimal]
    by_cases negative : n < 0
    · rw [if_pos negative, if_pos rfl]
      omega
    · rw [if_neg negative, if_neg (by simp)]
      omega
  have decimal : readDecimal? (Text.decimalInt n ++ '\n' :: rest) =
      some (.ok (.integer n), '\n' :: rest) := by
    rw [readDecimal?, readSign_decimalInt]
    simp only [readWhole?_decimal, whole, Option.bind_eq_bind, Option.bind_some, lt_irrefl,
      if_false, if_neg (not_lt.2 short), value]
    rfl
  rw [readNumber?, readBased?_decimalInt, decimal]

/-! ## Values -/

/-- A value that can be read back: a number must not have more digits than are read. -/
def Scalar.IsReadable : Scalar → Prop
  | .integer n => IsShort n
  | _ => True

/-- What the first character of a number cannot be. -/
theorem exists_decimalInt_eq_cons (n : Int) :
    ∃ c t, Text.decimalInt n = c :: t ∧ (c = '-' ∨ c.isDigit = true) := by
  cases n with
  | ofNat n =>
    obtain ⟨c, t, first, digit, -⟩ := exists_decimal_isDigit n
    exact ⟨c, t, first, Or.inr digit⟩
  | negSucc n => exact ⟨_, _, rfl, Or.inl rfl⟩

/-- What is not the name of a truth value and has no quotes is a moment or a number. -/
theorem readScalar_of_head {s : List Char} (head : c = '-' ∨ c.isDigit = true) :
    readScalar (c :: s) =
      match readMoment? (c :: s) with
      | some (v, r) => v.map (·, r)
      | none =>
        match readNumber? (c :: s) with
        | some (v, r) => v.map (·, r)
        | none => .error .malformed := by
  have other {d : Char} (dash : d ≠ '-') (digit : d.isDigit = false) : c ≠ d := by
    rintro rfl
    rcases head with rfl | head
    · exact dash rfl
    · exact absurd (head.symm.trans digit) (by decide)
  have word {d : Char} (dash : d ≠ '-') (digit : d.isDigit = false) (w : List Char) :
      skipWord? (d :: w) (c :: s) = none := by
    rw [skipWord?, List.isPrefixOf_cons_cons, beq_eq_false_iff_ne.2 (other dash digit).symm]
    rfl
  rw [readScalar.eq_def]
  split
  · rename_i same
    exact (other (by decide) rfl (List.cons.inj same).1).elim
  · rename_i same
    exact (other (by decide) rfl (List.cons.inj same).1).elim
  · rewrite [word (by decide) rfl, word (by decide) rfl]
    rfl

/-- **A value is read back from how it is written** at the end of a line. -/
theorem readScalar_write {v : Scalar} (readable : v.IsReadable) (rest : List Char) :
    readScalar (v.write ++ '\n' :: rest) = .ok (v.toValue, '\n' :: rest) := by
  cases v with
  | string s =>
    have read : readText (writeText s ++ '\n' :: rest) = .ok (s.toList, '\n' :: rest) :=
      readText_writeText s (by simp)
    rw [Scalar.write]
    rw [writeText, List.cons_append, List.cons_append] at read ⊢
    rw [readScalar, read]
    simp [Except.map, Scalar.toValue]
  | boolean b => cases b <;> rfl
  | integer n =>
    obtain ⟨c, t, first, head⟩ := exists_decimalInt_eq_cons n
    have moment := readMoment?_decimalInt n rest
    have number := readNumber?_decimalInt readable rest
    rw [Scalar.write]
    rw [first, List.cons_append] at moment number ⊢
    rw [readScalar_of_head head, moment, number]
    rfl

/-- The first character of a value that is written opens no table, array or comment. -/
theorem exists_write_eq_cons (v : Scalar) :
    ∃ c t, v.write = c :: t ∧ c ≠ '[' ∧ c ≠ '\x7b' ∧ isSpace c = false := by
  cases v with
  | string s => exact ⟨_, _, rfl, by decide⟩
  | boolean b => cases b <;> exact ⟨_, _, rfl, by decide⟩
  | integer n =>
    obtain ⟨c, t, first, head⟩ := exists_decimalInt_eq_cons n
    refine ⟨c, t, first, ?_⟩
    rcases head with rfl | digit
    · decide
    · have blank : isSpace c = false := by
        rw [isSpace, beq_eq_false_iff_ne.2 (ne_of_isDigit digit rfl),
          beq_eq_false_iff_ne.2 (ne_of_isDigit digit rfl)]
        rfl
      exact ⟨ne_of_isDigit digit rfl, ne_of_isDigit digit rfl, blank⟩

end TagSearch.Toml
