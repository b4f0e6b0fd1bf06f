import TagSearch.Text.Hex

/-!
# Results for other programs

Results as JSON in ASCII: two spaces for each level, one line for each item of a list and each field
of an object. All characters but the printable ones of ASCII are escaped by their UTF-16 units.

* `JsonValue.render` writes a value.
-/

namespace TagSearch

/-- A value of JSON. -/
inductive JsonValue where
  | text (s : String)
  | number (n : Int)
  | flag (b : Bool)
  | list (items : List JsonValue)
  | object (fields : List (String × JsonValue))

/-- A UTF-16 unit as an escape. -/
def unitEscape (n : Nat) : List Char :=
  '\\' :: 'u' :: [n / 4096, n / 256 % 16, n / 16 % 16, n % 16].map (Text.hexDigit 'a')

/-- A character inside a JSON text. -/
def jsonChar (c : Char) : List Char :=
  let n := c.toNat
  if c = '"' ∨ c = '\\' then ['\\', c]
  else if c = '\n' then ['\\', 'n']
  else if c = '\r' then ['\\', 'r']
  else if c = '\t' then ['\\', 't']
  else if c = '\x08' then ['\\', 'b']
  else if c = '\x0c' then ['\\', 'f']
  else if 32 ≤ n ∧ n < 127 then [c]
  else if n < 0x10000 then unitEscape n
  else unitEscape (0xD800 + (n - 0x10000) / 0x400) ++ unitEscape (0xDC00 + (n - 0x10000) % 0x400)

/-- A JSON text. -/
def jsonText (s : String) : String := String.ofList ('"' :: s.toList.flatMap jsonChar ++ ['"'])

/-- The start of a line of some level. -/
def indent (level : Nat) : String := String.ofList (List.replicate (2 * level) ' ')

/-- Parts on lines of their own between two brackets. -/
def bracketed (opening closing : String) (level : Nat) (parts : List String) : String :=
  if parts.isEmpty then opening ++ closing
  else
    opening ++ "\n" ++ ",\n".intercalate (parts.map (indent (level + 1) ++ ·)) ++ "\n" ++
      indent level ++ closing

mutual

/-- A value at some level. -/
def JsonValue.renderAt : JsonValue → (level : Nat) → String
  | .text s, _ => jsonText s
  | .number n, _ => toString n
  | .flag b, _ => if b then "true" else "false"
  | .list items, level => bracketed "[" "]" level (renderItems items (level + 1))
  | .object fields, level => bracketed "\x7b" "\x7d" level (renderFields fields (level + 1))

/-- The items of a list at some level. -/
def renderItems : List JsonValue → (level : Nat) → List String
  | [], _ => []
  | v :: items, level => v.renderAt level :: renderItems items level

/-- The fields of an object at some level. -/
def renderFields : List (String × JsonValue) → (level : Nat) → List String
  | [], _ => []
  | (key, v) :: fields, level =>
    (jsonText key ++ ": " ++ v.renderAt level) :: renderFields fields level

end

/-- A value as a text. -/
def JsonValue.render (v : JsonValue) : String := v.renderAt 0

end TagSearch
