/-!
# Numbers in digits

A number as its decimal digits, without leading zeros, and the number that digits stand for.

* `decimal` writes a number, `decimalInt` one with a sign.
* `ofDigits` is the value of digits to a base.
* `ofDigits_decimal`: the digits of a number stand for it.
* `isDigit_of_mem_decimal` and `exists_decimal_eq_cons`: the characters of a number are digits, and
  the first is no zero.
-/

namespace TagSearch.Text

/-- The character of a digit below ten. -/
def digit (n : Nat) : Char := Char.ofNat ('0'.toNat + n)

/-- The value of a decimal digit of ASCII. -/
def digitValue (c : Char) : Nat := c.toNat - '0'.toNat

/-- The decimal digits of a number. -/
def decimal (n : Nat) : List Char :=
  if n < 10 then [digit n] else decimal (n / 10) ++ [digit (n % 10)]
termination_by n

/-- The value of digits to a base, most significant first. -/
def ofDigits (base : Nat) (value : Char → Nat) (ds : List Char) : Nat :=
  ds.foldl (fun n c => base * n + value c) 0

/-- A number with a minus sign in front if it is negative. -/
def decimalInt : Int → List Char
  | .ofNat n => decimal n
  | .negSucc n => '-' :: decimal (n + 1)

@[simp] theorem ofDigits_nil (base : Nat) (value : Char → Nat) : ofDigits base value [] = 0 := rfl

theorem ofDigits_concat (base : Nat) (value : Char → Nat) (ds : List Char) (c : Char) :
    ofDigits base value (ds ++ [c]) = base * ofDigits base value ds + value c := by
  simp [ofDigits, List.foldl_append]

theorem digitValue_digit {n : Nat} (h : n < 10) : digitValue (digit n) = n := by
  have : ∀ m : Fin 10, digitValue (digit m) = m := by decide
  exact this ⟨n, h⟩

theorem ofDigits_decimal (n : Nat) : ofDigits 10 digitValue (decimal n) = n := by
  induction n using Nat.strongRecOn with
  | ind n ih =>
    rw [decimal]
    split
    · next h => simp [ofDigits, digitValue_digit h]
    · rw [ofDigits_concat, ih _ (by omega), digitValue_digit (by omega)]; omega

theorem isDigit_digit {n : Nat} (h : n < 10) : (digit n).isDigit = true := by
  have all : ∀ n < 10, (digit n).isDigit = true := by decide
  exact all n h

/-- A number is written in digits. -/
theorem isDigit_of_mem_decimal {n : Nat} {c : Char} (h : c ∈ decimal n) : c.isDigit = true := by
  induction n using Nat.strongRecOn with
  | ind n ih =>
    rw [decimal] at h
    split at h
    · next small =>
      obtain rfl := List.mem_singleton.1 h
      exact isDigit_digit small
    · rcases List.mem_append.1 h with h | h
      · exact ih _ (by omega) h
      · obtain rfl := List.mem_singleton.1 h
        exact isDigit_digit (Nat.mod_lt n (by omega))

/-- The digits of a positive number do not start with a zero. -/
theorem exists_decimal_eq_cons {n : Nat} (h : 0 < n) : ∃ c t, decimal n = c :: t ∧ c ≠ '0' := by
  induction n using Nat.strongRecOn with
  | ind n ih =>
    rw [decimal]
    split
    · next small =>
      have all : ∀ n < 10, 0 < n → digit n ≠ '0' := by decide
      exact ⟨_, _, rfl, all n small h⟩
    · obtain ⟨c, t, first, nonzero⟩ := ih (n / 10) (by omega) (by omega)
      exact ⟨c, t ++ [digit (n % 10)], by rw [first, List.cons_append], nonzero⟩

end TagSearch.Text
