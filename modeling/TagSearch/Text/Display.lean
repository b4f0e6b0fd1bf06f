import TagSearch.Text.Hex
import TagSearch.Text.Printable

/-!
# Displayed texts

How messages show a text: between quotes, with the characters that do not print escaped. The quotes
are single, unless the text holds a single quote and no double one.

* `display` shows a text between its quotes.
-/

namespace TagSearch.Text

/-- A number in at least `width` lower-case hexadecimal digits. -/
def hexNumber : (width : Nat) → Nat → List Char
  | 0, _ => []
  | width + 1, n => hexNumber width (n / 16) ++ [hexDigit 'a' (n % 16)]

/-- One character inside the quotes `q`. -/
def displayChar (q c : Char) : List Char :=
  if c = q || c = '\\' then ['\\', c]
  else if c = '\t' then ['\\', 't']
  else if c = '\n' then ['\\', 'n']
  else if c = '\r' then ['\\', 'r']
  else if isPrintable c then [c]
  else if c.toNat < 0x100 then '\\' :: 'x' :: hexNumber 2 c.toNat
  else if c.toNat < 0x10000 then '\\' :: 'u' :: hexNumber 4 c.toNat
  else '\\' :: 'U' :: hexNumber 8 c.toNat

/-- The quotes around a text: single ones, unless it holds single and no double quotes. -/
def displayQuote (s : List Char) : Char := if s.contains '\'' && !s.contains '"' then '"' else '\''

/-- A text as messages show it. -/
def display (s : String) : String :=
  let q := displayQuote s.toList
  String.ofList (q :: s.toList.flatMap (displayChar q) ++ [q])

end TagSearch.Text
