import TagSearch.Text.Blank
import TagSearch.Text.Digits

/-!
# Numbers that users type

A whole number is digits of any script with an optional sign, with single underscores between digits
and white space around it. A decimal number may also have a fraction and an exponent, and the words
for infinity and for what is no number stand for themselves.

* `readWhole?` reads a whole number, `readDecimal?` a decimal one.
-/

namespace TagSearch.Text

/-! ## Digits -/

/-- The zeros of all scripts; the digits from one to nine follow each of them. -/
def zeros : List Nat :=
  [0x30, 0x660, 0x6F0, 0x7C0, 0x966, 0x9E6, 0xA66, 0xAE6, 0xB66, 0xBE6, 0xC66, 0xCE6, 0xD66, 0xDE6,
    0xE50, 0xED0, 0xF20, 0x1040, 0x1090, 0x17E0, 0x1810, 0x1946, 0x19D0, 0x1A80, 0x1A90, 0x1B50,
    0x1BB0, 0x1C40, 0x1C50, 0xA620, 0xA8D0, 0xA900, 0xA9D0, 0xA9F0, 0xAA50, 0xABF0, 0xFF10, 0x104A0,
    0x10D30, 0x11066, 0x110F0, 0x11136, 0x111D0, 0x112F0, 0x11450, 0x114D0, 0x11650, 0x116C0,
    0x11730, 0x118E0, 0x11950, 0x11C50, 0x11D50, 0x11DA0, 0x16A60, 0x16AC0, 0x16B50, 0x1D7CE,
    0x1D7D8, 0x1D7E2, 0x1D7EC, 0x1D7F6, 0x1E140, 0x1E2F0, 0x1E950, 0x1FBF0]

/-- The value of a digit of any script. -/
def anyDigit? (c : Char) : Option Nat :=
  (zeros.find? fun z => z ≤ c.toNat && c.toNat < z + 10).map (c.toNat - ·)

/-- The white space around numbers: the blank characters but for the separators of ASCII. -/
def isNumberSpace (c : Char) : Bool := isBlank c && !(28 ≤ c.toNat && c.toNat ≤ 31)

/-- A text without white space around it. -/
def trimNumber (s : List Char) : List Char :=
  ((s.dropWhile isNumberSpace).reverse.dropWhile isNumberSpace).reverse

/-- Digits with single underscores between them, and what follows. -/
def digitsThen : List Char → List Nat × List Char
  | '_' :: c :: s =>
    match anyDigit? c with
    | some d =>
      let (ds, rest) := digitsThen s
      (d :: ds, rest)
    | none => ([], '_' :: c :: s)
  | c :: s =>
    match anyDigit? c with
    | some d =>
      let (ds, rest) := digitsThen s
      (d :: ds, rest)
    | none => ([], c :: s)
  | [] => ([], [])

/-- Digits that start with a digit, and what follows. -/
def leadingDigits (s : List Char) : List Nat × List Char :=
  match s with
  | c :: _ => if (anyDigit? c).isSome then digitsThen s else ([], s)
  | [] => ([], [])

/-- The number that digits stand for. -/
def natOfDigits (ds : List Nat) : Nat := ds.foldl (10 * · + ·) 0

/-- Whether a text starts with a minus sign, and the text after its sign. -/
def splitSign : List Char → Bool × List Char
  | '-' :: s => (true, s)
  | '+' :: s => (false, s)
  | s => (false, s)

/-- A number with a sign. -/
def signed (negative : Bool) (n : Nat) : Int := if negative then -n else n

/-! ## Whole numbers -/

/-- The longest whole number that is read. -/
def maxWholeDigits : Nat := 4300

/-- Reads a whole number. -/
def readWhole? (text : String) : Option Int :=
  let (negative, s) := splitSign (trimNumber text.toList)
  match leadingDigits s with
  | ([], _) => none
  | (ds, []) => if ds.length ≤ maxWholeDigits then some (signed negative (natOfDigits ds)) else none
  | _ => none

/-! ## Decimal numbers -/

/-- A decimal number: digits and a power of ten, or one of the special ones. -/
inductive Decimal where
  /-- The number `digits * 10 ^ exponent`, with a minus sign if `negative`. -/
  | finite (negative : Bool) (digits : Nat) (exponent : Int)
  | infinite (negative : Bool)
  | notANumber
  deriving DecidableEq, Repr

/-- Reads the exponent that a text consists of; without one it is zero. -/
def readExponent? : List Char → Option Int
  | [] => some 0
  | c :: s =>
    if c = 'e' ∨ c = 'E' then
      let (negative, s) := splitSign s
      match leadingDigits s with
      | ([], _) => none
      | (ds, []) => some (signed negative (natOfDigits ds))
      | _ => none
    else none

/-- Reads a decimal number. -/
def readDecimal? (text : String) : Option Decimal :=
  let (negative, s) := splitSign (trimNumber text.toList)
  let word := String.ofList (s.map Char.toLower)
  if word = "inf" ∨ word = "infinity" then some (.infinite negative)
  else if word = "nan" then some .notANumber
  else
    let (whole, r) := leadingDigits s
    let (fraction, r) := match r with
      | '.' :: t => leadingDigits t
      | r => ([], r)
    if whole.isEmpty && fraction.isEmpty then none
    else
      (readExponent? r).map fun e =>
        .finite negative (natOfDigits (whole ++ fraction)) (e - fraction.length)

end TagSearch.Text
