import TagSearch.Text.Digits
import TagSearch.Text.Hex
import TagSearch.Toml.Value

/-!
# Writing settings documents

A document is written as sections with a heading each, a blank line between them, and one line for
each entry. Texts are quoted; quotes, backslashes and all control characters but the tab are
escaped.

* `writeText` writes a text, `writeDocument` a list of sections.
-/

namespace TagSearch.Toml

/-- A value that is written on one line. -/
inductive Scalar where
  | string (s : String)
  | integer (n : Int)
  | boolean (b : Bool)
  deriving DecidableEq, Repr

/-- A scalar as a value. -/
def Scalar.toValue : Scalar → Value
  | .string s => .string s
  | .integer n => .integer n
  | .boolean b => .boolean b

/-- A table of scalars with its name. -/
structure Section where
  name : String
  entries : List (String × Scalar)
  deriving DecidableEq, Repr

/-- A section as a table. -/
def Section.toTable (s : Section) : Table := s.entries.map fun (k, v) => (k, v.toValue)

/-- A character inside quotes. -/
def writeChar (c : Char) : List Char :=
  if c = '"' ∨ c = '\\' then ['\\', c]
  else if c = '\x08' then ['\\', 'b']
  else if c = '\n' then ['\\', 'n']
  else if c = '\x0c' then ['\\', 'f']
  else if c = '\r' then ['\\', 'r']
  else if (c.toNat < 32 ∧ c ≠ '\t') ∨ c.toNat = 127 then
    ['\\', 'u', '0', '0', Text.hexDigit 'a' (c.toNat / 16), Text.hexDigit 'a' (c.toNat % 16)]
  else [c]

/-- A text between quotes. -/
def writeText (s : String) : List Char := '"' :: s.toList.flatMap writeChar ++ ['"']

/-- A scalar. -/
def Scalar.write : Scalar → List Char
  | .string s => writeText s
  | .integer n => Text.decimalInt n
  | .boolean true => ['t', 'r', 'u', 'e']
  | .boolean false => ['f', 'a', 'l', 's', 'e']

/-- The line of an entry. -/
def writeEntry (entry : String × Scalar) : List Char :=
  entry.1.toList ++ [' ', '=', ' '] ++ entry.2.write ++ ['\n']

/-- The lines of a section. -/
def Section.write (s : Section) : List Char :=
  '[' :: s.name.toList ++ [']', '\n'] ++ s.entries.flatMap writeEntry

/-- A document of sections. -/
def writeDocument (sections : List Section) : String :=
  String.ofList (List.intercalate ['\n'] (sections.map Section.write))

end TagSearch.Toml
