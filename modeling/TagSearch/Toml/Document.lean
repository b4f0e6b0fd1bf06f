import TagSearch.Toml.Number

/-!
# Reading settings documents

A document is a list of lines: a key with a value, or a heading that opens a table for the keys
below it. A table is opened by one heading only, and nothing is added to a table or array that was
written as a value.

* `readValue` reads a value, in which only so many others may be nested.
* `Draft.assign`, `Draft.openTable` and `Draft.openItem` carry out a line.
* `Document.read` reads a document.
-/

namespace TagSearch.Toml

/-! ## Values -/

/-- The text after spaces, line feeds and comments. -/
def skipBlank (fuel : Nat) (s : List Char) : Except Error (List Char) :=
  match fuel with
  | 0 => .ok s
  | fuel + 1 => do
    let s := s.dropWhile fun c => isSpace c || c == '\n'
    match s with
    | '#' :: _ => skipBlank fuel (← skipComment s)
    | s => return s

/-- The text after spaces, line feeds and comments. Each comment has a character of its own. -/
def skipLines (s : List Char) : Except Error (List Char) := skipBlank (s.length + 1) s

/-- The text after a word that it must start with. -/
def skipWord? (word s : List Char) : Option (List Char) :=
  if word.isPrefixOf s then some (s.drop word.length) else none

/-- Reads a value that holds no other values. -/
def readScalar (s : List Char) : Except Error (Value × List Char) :=
  match s with
  | '"' :: _ => (readText s).map fun (t, r) => (.string (String.ofList t), r)
  | '\'' :: _ => (readText s).map fun (t, r) => (.string (String.ofList t), r)
  | _ =>
    match skipWord? ['t', 'r', 'u', 'e'] s, skipWord? ['f', 'a', 'l', 's', 'e'] s with
    | some r, _ => .ok (.boolean true, r)
    | _, some r => .ok (.boolean false, r)
    | none, none =>
      match readMoment? s with
      | some (v, r) => v.map (·, r)
      | none =>
        match readNumber? s with
        | some (v, r) => v.map (·, r)
        | none => .error .malformed

/-- A table that is being written as a value, and the keys in it that are complete. -/
structure Inline where
  entries : Table
  closed : List (List String)

/-- The last key of a path, and the keys in front of it. -/
def splitKey (key : List String) : List String × String := (key.dropLast, key.getLast?.getD "")

/-- Whether some path of a list leads to a key or through which it leads. -/
def covers (paths : List (List String)) (key : List String) : Bool := paths.any (·.isPrefixOf key)

/-- Whether a value is closed once it is written. -/
def Value.isContainer : Value → Bool
  | .array _ | .table _ => true
  | _ => false

/-- Puts a value under a key of a table that is being written. -/
def Inline.assign (t : Inline) (key : List String) (v : Value) : Option Inline := do
  if covers t.closed key then none
  let (path, last) := splitKey key
  let entries ← Table.modifyAt false (Table.insertNew last v) path t.entries
  return ⟨entries, if v.isContainer then key :: t.closed else t.closed⟩

/-- The room that an array takes of that for nested values. -/
def arrayRoom : Nat := 2

/-- The room that a table takes of that for nested values. -/
def tableRoom : Nat := 3

/-- The room for nested values. -/
def maxRoom : Nat := 978

mutual

/-- Reads a value for which there is some room. -/
def readValue : (fuel room : Nat) → List Char → Except Error (Value × List Char)
  | 0, _, _ => .error .malformed
  | fuel + 1, room, s =>
    match s with
    | '[' :: r => do
      if room < arrayRoom then .error .tooDeep
      match ← skipLines r with
      | ']' :: r => return (.array [], r)
      | r =>
        let (items, r) ← readItems fuel (room - arrayRoom) r
        return (.array items, r)
    | '\x7b' :: r => do
      if room < tableRoom then .error .tooDeep
      match skipSpaces r with
      | '\x7d' :: r => return (.table [], r)
      | r =>
        let (t, r) ← readEntries fuel (room - tableRoom) ⟨[], []⟩ r
        return (.table t, r)
    | s => readScalar s

/-- Reads the items of an array, of which there is at least one more. -/
def readItems : (fuel room : Nat) → List Char → Except Error (List Value × List Char)
  | 0, _, _ => .error .malformed
  | fuel + 1, room, s => do
    let (v, r) ← readValue fuel room s
    match ← skipLines r with
    | ']' :: r => return ([v], r)
    | ',' :: r =>
      match ← skipLines r with
      | ']' :: r => return ([v], r)
      | r =>
        let (items, r) ← readItems fuel room r
        return (v :: items, r)
    | _ => .error .malformed

/-- Reads the entries of a table that is written as a value, of which there is at least one more. -/
def readEntries : (fuel room : Nat) → Inline → List Char → Except Error (Table × List Char)
  | 0, _, _, _ => .error .malformed
  | fuel + 1, room, t, s => do
    let (key, r) ← readKey s
    match r with
    | '=' :: r =>
      let (v, r) ← readValue fuel room (skipSpaces r)
      match t.assign key v with
      | none => .error .malformed
      | some t =>
        match skipSpaces r with
        | '\x7d' :: r => return (t.entries, r)
        | ',' :: r => readEntries fuel room t (skipSpaces r)
        | _ => .error .malformed
    | _ => .error .malformed

end

/-- Reads a key, an equals sign and a value. Every step into a value takes a character, so the fuel
is never used up. -/
def readPair (s : List Char) : Except Error ((List String × Value) × List Char) := do
  let (key, r) ← readKey s
  match r with
  | '=' :: r =>
    let (v, r) ← readValue (2 * r.length + 2) maxRoom (skipSpaces r)
    return ((key, v), r)
  | _ => .error .malformed

/-! ## Lines -/

/-- A document as far as it was read. -/
structure Draft where
  /-- The values so far. -/
  root : Table
  /-- The path of the last heading. -/
  heading : List String
  /-- The paths to tables and arrays that were written as values. -/
  closed : List (List String)
  /-- The paths that no heading may open again. -/
  opened : List (List String)
  /-- The paths that join them at the next heading. -/
  dotted : List (List String)

namespace Draft

/-- The document without lines. -/
def empty : Draft := ⟨[], [], [], [], []⟩

/-- Puts a value under a key below the last heading. -/
def assign (d : Draft) (key : List String) (v : Value) : Option Draft := do
  let through := ((List.range key.length).drop 1).map fun n => d.heading ++ key.take n
  if through.any d.opened.contains then none
  let (path, last) := splitKey key
  if covers d.closed (d.heading ++ path) then none
  let root ← Table.modifyAt true (Table.insertNew last v) (d.heading ++ path) d.root
  return { d with
    root
    closed := if v.isContainer then (d.heading ++ key) :: d.closed else d.closed
    dotted := through ++ d.dotted }

/-- The document where a heading follows: paths of keys with points cannot be opened any more. -/
def settle (d : Draft) : Draft := { d with opened := d.dotted ++ d.opened, dotted := [] }

/-- Opens a table for the keys that follow. -/
def openTable (d : Draft) (key : List String) : Option Draft := do
  if d.opened.contains key || covers d.closed key then none
  let root ← Table.modifyAt true some key d.root
  return { d with root, heading := key, opened := key :: d.opened }

/-- Opens a new table at the end of an array for the keys that follow. -/
def openItem (d : Draft) (key : List String) : Option Draft := do
  if covers d.closed key then none
  let (path, last) := splitKey key
  let root ← Table.modifyAt true (Table.appendTable last) path d.root
  return { d with
    root
    heading := key
    closed := d.closed.filter fun p => !key.isPrefixOf p
    opened := key :: d.opened.filter fun p => !key.isPrefixOf p }

end Draft

/-- The result of a step, or the error of a text that breaks the rules. -/
def orMalformed {α : Type} (r : Option α) : Except Error α :=
  (r.map .ok).getD (.error .malformed)

/-- Reads a line that is neither blank nor a comment, up to the spaces at its end. -/
def readLine (d : Draft) : List Char → Except Error (Draft × List Char)
  | '[' :: '[' :: s => do
    let (key, r) ← readKey (skipSpaces s)
    let d ← orMalformed (d.settle.openItem key)
    match r with
    | ']' :: ']' :: r => return (d, r)
    | _ => .error .malformed
  | '[' :: s => do
    let (key, r) ← readKey (skipSpaces s)
    let d ← orMalformed (d.settle.openTable key)
    match r with
    | ']' :: r => return (d, r)
    | _ => .error .malformed
  | s => do
    let ((key, v), r) ← readPair s
    return (← orMalformed (d.assign key v), r)

/-- Reads the rest of a line, which may hold a comment, and the line feed at its end. -/
def readLineEnd (s : List Char) : Except Error (List Char) := do
  match ← skipComment (skipSpaces s) with
  | [] => return []
  | '\n' :: r => return r
  | _ => .error .malformed

/-- Reads the lines of a document, at most `fuel` ones. -/
def readLines : (fuel : Nat) → Draft → List Char → Except Error Table
  | 0, d, _ => .ok d.root
  | fuel + 1, d, s =>
    match skipSpaces s with
    | [] => .ok d.root
    | '\n' :: r => readLines fuel d r
    | '#' :: r => do readLines fuel d (← readLineEnd ('#' :: r))
    | s => do
      let (d, r) ← readLine d s
      readLines fuel d (← readLineEnd r)

/-- Reads a document. It has no more lines than characters, and one. -/
def Document.read (text : String) : Except Error Table :=
  let s := unifyLines text.toList
  readLines (s.length + 1) .empty s

end TagSearch.Toml
