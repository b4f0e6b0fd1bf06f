import TagSearch.Text.Number

/-!
# Shortest decimal texts

Numbers are kept with 53 binary digits: a number is rounded to the nearest one of these, and of two
equally near ones to the even one. Its text is the shortest decimal that is rounded to it, and of
several such the nearest to it, or the even one of two that are equally near.

* `Binary.round` rounds a fraction, `Binary.ofDecimal` a decimal number.
* `Binary.shortest?` is the shortest decimal of a number, `Binary.toText` its text.
-/

namespace TagSearch.Text

/-- The number `mantissa * 2 ^ exponent`, or what exceeds all of them. -/
inductive Binary where
  | finite (mantissa : Nat) (exponent : Int)
  | infinite
  deriving DecidableEq, Repr

/-- The power of a base as a fraction: for a negative exponent the denominator. -/
def powerFraction (base : Nat) (exponent : Int) : Nat × Nat :=
  if 0 ≤ exponent then (Nat.pow base exponent.toNat, 1) else (1, Nat.pow base (-exponent).toNat)

/-- The quotient rounded to the nearest number, and of two to the even one. -/
def roundQuotient (num den : Nat) : Nat :=
  let q := num / den
  let r := num % den
  if den < 2 * r ∨ (2 * r = den ∧ q % 2 = 1) then q + 1 else q

namespace Binary

/-- The least exponent. -/
def leastExponent : Int := -1074

/-- The largest exponent. -/
def largestExponent : Int := 971

/-- The least mantissa of 53 binary digits. -/
def leastMantissa : Nat := Nat.pow 2 52

/-- The exponent that gives a fraction 53 binary digits, if it is not less than the least one. -/
def exponentOf (num den : Nat) : Int :=
  let guess : Int := (num.log2 : Int) - (den.log2 : Int) - 52
  let (p, q) := powerFraction 2 guess
  max leastExponent (if num * q < den * p * leastMantissa then guess - 1 else guess)

/-- A fraction rounded to 53 binary digits. -/
def round (num den : Nat) : Binary :=
  if num = 0 then .finite 0 leastExponent
  else
    let e := exponentOf num den
    let (p, q) := powerFraction 2 e
    let m := roundQuotient (num * q) (den * p)
    let (m, e) := if m = 2 * leastMantissa then (leastMantissa, e + 1) else (m, e)
    if largestExponent < e then .infinite else .finite m e

/-- The decimal number `digits * 10 ^ exponent` rounded. Exponents far beyond those of the numbers
are not computed with. -/
def ofDecimal (digits : Nat) (exponent : Int) : Binary :=
  let size : Int := exponent + (decimal digits).length
  if digits = 0 ∨ size < -400 then .finite 0 leastExponent
  else if 400 < size then .infinite
  else
    let (p, q) := powerFraction 10 exponent
    round (digits * p) q

/-- A number as a fraction. -/
def toFraction (m : Nat) (e : Int) : Nat × Nat :=
  let (p, q) := powerFraction 2 e
  (m * p, q)

/-- The decimals `digits * 10 ^ k` next to a fraction from below and from above, the nearer one
first, and of two equally near ones the even one. -/
def neighbours (num den : Nat) (k : Int) : List Nat :=
  let (p, q) := powerFraction 10 k
  let low := num * q / (den * p)
  if roundQuotient (num * q) (den * p) = low then [low, low + 1] else [low + 1, low]

/-- The first exponent of a list for which a decimal next to a number is rounded to it. -/
def shortestAmong (x : Binary) (num den : Nat) : List Int → Option (Nat × Int)
  | [] => none
  | k :: ks =>
    match (neighbours num den k).find? fun d => ofDecimal d k == x with
    | some d => some (d, k)
    | none => shortestAmong x num den ks

/-- The shortest decimal that is rounded to a number other than zero. -/
def shortest? (m : Nat) (e : Int) : Option (Nat × Int) :=
  let (num, den) := toFraction m e
  let top : Int := (decimal (num / den)).length
  shortestAmong (.finite m e) num den ((List.range 360).map fun (n : Nat) => top - (n : Int))

/-- The digits of a decimal without the zeros at its end, and the place of the point in them. -/
def layout (digits : Nat) (exponent : Int) : List Char × Int :=
  let ds := decimal digits
  let core := (ds.reverse.dropWhile (· == '0')).reverse
  (core, exponent + ds.length)

/-- The text of digits with a point in front of the digit number `point`. From `10 ^ 16` on and
below `10 ^ (-4)` the point stands behind the first digit, and an exponent follows. -/
def writeLayout (ds : List Char) (point : Int) : List Char :=
  if -4 < point ∧ point ≤ 16 then
    if point ≤ 0 then '0' :: '.' :: List.replicate (-point).toNat '0' ++ ds
    else
      let whole := ds.take point.toNat
      let zeros := List.replicate (point.toNat - ds.length) '0'
      let fraction := ds.drop point.toNat
      whole ++ zeros ++ '.' :: (if fraction.isEmpty then ['0'] else fraction)
  else
    let e := point - 1
    let exponentDigits := decimal e.natAbs
    let exponentText := if exponentDigits.length < 2 then '0' :: exponentDigits else exponentDigits
    ds.take 1 ++ (if ds.length ≤ 1 then [] else '.' :: ds.drop 1) ++
      'e' :: (if e < 0 then '-' else '+') :: exponentText

/-- The text of a number. -/
def toText : Binary → List Char
  | .infinite => ['i', 'n', 'f']
  | .finite m e =>
    if m = 0 then ['0', '.', '0']
    else
      match shortest? m e with
      | some (d, k) =>
        let (ds, point) := layout d k
        writeLayout ds point
      | none => ['0', '.', '0']

/-- Whether a number is less than another one. -/
def lessThan : Binary → Binary → Bool
  | .finite m e, .finite n f =>
    let (a, b) := toFraction m e
    let (c, d) := toFraction n f
    a * d < c * b
  | .finite _ _, .infinite => true
  | .infinite, _ => false

end Binary

end TagSearch.Text
