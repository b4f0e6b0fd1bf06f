/-!
# Values of a settings document

A document is a table: keys with values, in the order in which they were introduced. Only texts,
whole numbers and truth values carry their value; other numbers, dates and times are kept as they
are written.

* `Value` is a value, `Table` a table.
* `Table.modifyAt` changes the table at a path of keys and creates the tables on the way.
-/

namespace TagSearch.Toml

/-- The sorts of dates and times. -/
inductive Moment where
  | dateTime
  | date
  | time
  deriving DecidableEq, Repr

/-- A value of a document. -/
inductive Value where
  | string (s : String)
  | integer (n : Int)
  | real (text : String)
  | boolean (b : Bool)
  | moment (sort : Moment) (text : String)
  | array (items : List Value)
  | table (entries : List (String × Value))
  deriving Inhabited

/-- A table by its entries. -/
abbrev Table := List (String × Value)

/-- Why a text is no document. -/
inductive Error where
  /-- The text breaks the rules of the format. -/
  | malformed
  /-- A decimal number has more digits than are read. -/
  | tooManyDigits (count : Nat)
  /-- A value has more values around it than are read. -/
  | tooDeep
  deriving DecidableEq, Repr

namespace Table

/-- A table with a value under a key, in the place of the old one or at the end. -/
def set (key : String) (v : Value) : Table → Table
  | [] => [(key, v)]
  | e :: t => if e.1 = key then (key, v) :: t else e :: set key v t

/-- Changes the table at a path. A key that is missing on the way gets an empty table, and with
`intoArrays` the last item of an array stands for the array. Any other value on the way is in the
way. -/
def modifyAt (intoArrays : Bool) (f : Table → Option Table) : List String → Table → Option Table
  | [], t => f t
  | k :: path, t =>
    match t.lookup k with
    | none => (modifyAt intoArrays f path []).map fun inner => t.set k (.table inner)
    | some (.table inner) =>
      (modifyAt intoArrays f path inner).map fun inner => t.set k (.table inner)
    | some (.array items) =>
      match intoArrays, items.getLast? with
      | true, some (.table inner) =>
        (modifyAt intoArrays f path inner).map fun inner =>
          t.set k (.array (items.dropLast ++ [.table inner]))
      | _, _ => none
    | some _ => none

/-- The table with a new key at its end, unless it has the key. -/
def insertNew (key : String) (v : Value) (t : Table) : Option Table :=
  if (t.lookup key).isSome then none else some (t ++ [(key, v)])

/-- The table with an empty table at the end of the array under a key. -/
def appendTable (key : String) (t : Table) : Option Table :=
  match t.lookup key with
  | none => some (t ++ [(key, .array [.table []])])
  | some (.array items) => some (t.set key (.array (items ++ [.table []])))
  | some _ => none

end Table

end TagSearch.Toml
