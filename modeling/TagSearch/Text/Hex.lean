/-!
# Hexadecimal text

The bytes of a text in UTF-8, each as two hexadecimal digits, high half first. The digits are those
of `0123456789abcdef`, or of `0123456789ABCDEF` for the upper-case form.

* `hex` and `hexUpper` write a text, `bytesOfHex` reads the bytes back and `ofHex?` the text.
* `hexValue?_hexDigit`: a digit stands for the number that it was made from.
-/

namespace TagSearch.Text

/-- The digit of a number below sixteen, with the letters starting at `a`. -/
def hexDigit (a : Char) (n : Nat) : Char :=
  if n < 10 then Char.ofNat ('0'.toNat + n) else Char.ofNat (a.toNat + (n - 10))

/-- The two digits of a byte. -/
def hexByte (a : Char) (b : UInt8) : List Char :=
  [hexDigit a (b.toNat / 16), hexDigit a (b.toNat % 16)]

/-- The bytes of a text in UTF-8. -/
def bytes (s : String) : List UInt8 := s.toUTF8.data.toList

/-- A text as lower-case hexadecimal digits of its UTF-8 bytes. -/
def hex (s : String) : String := String.ofList ((bytes s).flatMap (hexByte 'a'))

/-- A text as upper-case hexadecimal digits of its UTF-8 bytes. -/
def hexUpper (s : String) : String := String.ofList ((bytes s).flatMap (hexByte 'A'))

/-- The value of a hexadecimal digit of either case. -/
def hexValue? (c : Char) : Option Nat :=
  let n := c.toNat
  if '0'.toNat ≤ n ∧ n ≤ '9'.toNat then some (n - '0'.toNat)
  else if 'a'.toNat ≤ n ∧ n ≤ 'f'.toNat then some (n - 'a'.toNat + 10)
  else if 'A'.toNat ≤ n ∧ n ≤ 'F'.toNat then some (n - 'A'.toNat + 10)
  else none

theorem hexValue?_hexDigit {n : Nat} (h : n < 16) : hexValue? (hexDigit 'a' n) = some n := by
  have all : ∀ n < 16, hexValue? (hexDigit 'a' n) = some n := by decide
  exact all n h

/-- The bytes that a run of digits stands for; an odd run or another character gives none. -/
def bytesOfHex : List Char → Option (List UInt8)
  | [] => some []
  | [_] => none
  | c :: d :: r => do
    let hi ← hexValue? c
    let lo ← hexValue? d
    let rest ← bytesOfHex r
    return UInt8.ofNat (16 * hi + lo) :: rest

/-- The text whose bytes in UTF-8 some digits stand for, if there is one. -/
def ofHex? (s : String) : Option String :=
  (bytesOfHex s.toList).bind fun bs => String.fromUTF8? ⟨bs.toArray⟩

end TagSearch.Text
