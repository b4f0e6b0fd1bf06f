import TagSearch.Text.Digits
import TagSearch.Toml.Scan

/-!
# Numbers, dates and times

How a settings document writes numbers and moments. Underscores may stand between digits. A number
to base ten has no leading zero and at most 4300 digits, and it may have a sign, a fraction and an
exponent; numbers to the bases 2, 8 and 16 have none of these.

* `readNumber?` and `readMoment?` read the longest number or moment that a text starts with.
-/

namespace TagSearch.Toml

/-- Splits off the digits that a text starts with, leaving out single underscores between them. -/
def digitRun (isDigit : Char → Bool) : List Char → List Char × List Char
  | '_' :: c :: s =>
    if isDigit c then
      let (ds, rest) := digitRun isDigit s
      (c :: ds, rest)
    else ([], '_' :: c :: s)
  | c :: s =>
    if isDigit c then
      let (ds, rest) := digitRun isDigit s
      (c :: ds, rest)
    else ([], c :: s)
  | [] => ([], [])

/-- Splits off digits that start with a digit. -/
def digits? (isDigit : Char → Bool) : List Char → Option (List Char × List Char)
  | c :: s => if isDigit c then some (digitRun isDigit (c :: s)) else none
  | [] => none

/-- The longest decimal number that is read. -/
def maxDigits : Nat := 4300

/-! ## Numbers -/

/-- The base that a letter behind a zero announces. -/
def base? (c : Char) : Option Nat := [('x', 16), ('o', 8), ('b', 2)].lookup c

/-- Whether a character is a digit to a base. -/
def isDigitOf (base : Nat) (c : Char) : Bool :=
  match Text.hexValue? c with
  | some n => n < base
  | none => false

/-- Reads a number to another base than ten. -/
def readBased? : List Char → Option (Value × List Char)
  | '0' :: c :: s => do
    let base ← base? c
    let (ds, rest) ← digits? (isDigitOf base) s
    return (.integer (Text.ofDigits base (fun d => (Text.hexValue? d).getD 0) ds), rest)
  | _ => none

/-- The sign that a text starts with, and the text after it. -/
def readSign : List Char → Option Char × List Char
  | '+' :: s => (some '+', s)
  | '-' :: s => (some '-', s)
  | s => (none, s)

/-- Reads the whole part of a number to base ten. -/
def readWhole? : List Char → Option (List Char × List Char)
  | '0' :: s => some (['0'], s)
  | s => digits? Char.isDigit s

/-- The text after a fraction, if it starts with one. -/
def skipFraction (s : List Char) : List Char :=
  match s with
  | '.' :: r => ((digits? Char.isDigit r).map (·.2)).getD s
  | _ => s

/-- The text after an exponent, if it starts with one. -/
def skipExponent (s : List Char) : List Char :=
  match s with
  | c :: r =>
    if c = 'e' ∨ c = 'E' then ((digits? Char.isDigit (readSign r).2).map (·.2)).getD s else s
  | [] => s

/-- The part of a text that stands before its end `rest`. -/
def consumed (s rest : List Char) : String := String.ofList (s.take (s.length - rest.length))

/-- Reads a number to base ten. -/
def readDecimal? (s : List Char) : Option (Except Error Value × List Char) := do
  let (sign, r) := readSign s
  let (ds, r) ← readWhole? r
  let rest := skipExponent (skipFraction r)
  if rest.length < r.length then return (.ok (.real (consumed s rest)), rest)
  else if ds.length > maxDigits then return (.error (.tooManyDigits ds.length), r)
  else
    let n : Int := Text.ofDigits 10 Text.digitValue ds
    return (.ok (.integer (if sign = some '-' then -n else n)), r)

/-- Reads a name for a number that has no digits. -/
def readSpecial? (s : List Char) : Option (Value × List Char) :=
  let r := (readSign s).2
  if r.take 3 = ['i', 'n', 'f'] ∨ r.take 3 = ['n', 'a', 'n'] then
    some (.real (consumed s (r.drop 3)), r.drop 3)
  else none

/-- Reads a number. -/
def readNumber? (s : List Char) : Option (Except Error Value × List Char) :=
  match readBased? s with
  | some (v, rest) => some (.ok v, rest)
  | none =>
    match readDecimal? s with
    | some r => some r
    | none => (readSpecial? s).map fun (v, rest) => (.ok v, rest)

/-! ## Dates and times -/

/-- Reads a number of exactly `width` digits that lies between two bounds. -/
def field? (width low high : Nat) (s : List Char) : Option (Nat × List Char) :=
  let ds := s.take width
  let n := Text.ofDigits 10 Text.digitValue ds
  if ds.length = width ∧ ds.all Char.isDigit ∧ low ≤ n ∧ n ≤ high then some (n, s.drop width)
  else none

/-- The text after a character, if it starts with it. -/
def after? (c : Char) : List Char → Option (List Char)
  | d :: s => if d = c then some s else none
  | [] => none

/-- The text after hours, minutes and seconds, with a fraction of a second or without. -/
def skipTime? (s : List Char) : Option (List Char) := do
  let (_, r) ← field? 2 0 23 s
  let (_, r) ← field? 2 0 59 (← after? ':' r)
  let (_, r) ← field? 2 0 59 (← after? ':' r)
  match r with
  | '.' :: c :: t => return if c.isDigit then t.dropWhile Char.isDigit else r
  | _ => return r

/-- The text after the distance from universal time, if it starts with one. -/
def skipOffset (s : List Char) : List Char :=
  match s with
  | c :: r =>
    if c = 'Z' ∨ c = 'z' then r
    else if c = '+' ∨ c = '-' then
      (do
        let (_, r) ← field? 2 0 23 r
        let (_, r) ← field? 2 0 59 (← after? ':' r)
        return r : Option (List Char)).getD s
    else s
  | [] => s

/-- The number of days of a month. -/
def daysIn (year month : Nat) : Nat :=
  if month = 2 then
    if year % 4 = 0 ∧ (year % 100 ≠ 0 ∨ year % 400 = 0) then 29 else 28
  else if month = 4 ∨ month = 6 ∨ month = 9 ∨ month = 11 then 30
  else 31

/-- Reads a date, with a time or without. A day that the month does not have is an error. -/
def readDate? (s : List Char) : Option (Except Error Value × List Char) := do
  let (year, r) ← field? 4 0 9999 s
  let (month, r) ← field? 2 1 12 (← after? '-' r)
  let (day, r) ← field? 2 1 31 (← after? '-' r)
  let timed : Option (List Char) :=
    match r with
    | c :: t => if c = 'T' ∨ c = 't' ∨ c = ' ' then skipTime? t else none
    | [] => none
  let (sort, rest) := match timed with
    | some t => (Moment.dateTime, skipOffset t)
    | none => (Moment.date, r)
  if year = 0 ∨ daysIn year month < day then return (.error .malformed, rest)
  else return (.ok (.moment sort (consumed s rest)), rest)

/-- Reads a date or a time. -/
def readMoment? (s : List Char) : Option (Except Error Value × List Char) :=
  match readDate? s with
  | some r => some r
  | none => (skipTime? s).map fun rest => (.ok (.moment .time (consumed s rest)), rest)

end TagSearch.Toml
