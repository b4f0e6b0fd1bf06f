import TagSearch.Catalog.TokenTable
import TagSearch.Expr.Basic

/-!
# Adding, removing and listing tags

Tags are trimmed before use and none may be blank; the files to tag must be recorded. Either every
tag of a call is added to every file of it, or an error is reported and nothing changes.

The engine that keeps the tables binds only so many values in one statement, its *capacity*. Two
statements bind as many values as they are given: the one that takes names from a file, and the one
that reads the tags of files. The others bind a few values, and are taken to be within any capacity.

* `normalizeTags` trims names and drops repetitions, keeping the order.
* `Catalog.addTags` and `Catalog.removeTags` return the number of tags added and removed.
* `Catalog.listTags` counts the files of each tag, `Catalog.tagsByFile` lists the tags of files.
* `Catalog.removeTags?` and `Catalog.tagsByFile?` are these operations within a capacity.
-/

namespace TagSearch

/-- Why tags cannot be edited. -/
inductive TaggingError where
  /-- A tag is blank. -/
  | blankTag (text : String)
  /-- A path is not recorded. -/
  | notIndexed (path : String)
  deriving DecidableEq, Repr

/-- The wording of a tagging error. -/
def TaggingError.message : TaggingError → String
  | .blankTag text => (Term.tag text).blankMessage
  | .notIndexed path => "File not indexed: " ++ path

/-- Trimmed names in the order of their first occurrence; the first blank one is an error. -/
def normalizeTags (tags : List String) : Except TaggingError (List String) :=
  match tags.find? Text.isBlankText with
  | some text => .error (.blankTag text)
  | none => .ok (tags.map Text.trim).eraseDups

namespace Catalog

/-- The numbers of the files at some paths; the first path that is not recorded is an error. -/
def fileIds (c : Catalog) (paths : List String) : Except TaggingError (List Int) :=
  paths.mapM fun p => match c.find? p with
    | some f => .ok f.id
    | none => .error (.notIndexed p)

/-- The tag rows with further ones, each once. -/
def insertTags (rows : List (Int × String)) (new : List (Int × String)) : List (Int × String) :=
  new.foldl (fun rows row => if rows.contains row then rows else rows ++ [row]) rows

/-- New tag rows, with a fresh token table if their number changed. -/
def withTags (c : Catalog) (rows : List (Int × String)) : Catalog :=
  if rows.length = c.tags.length then c else { c with tags := rows }.refreshTokens

/-- Gives every file every tag, and returns the number of new rows. -/
def addTags (c : Catalog) (paths tags : List String) : Except TaggingError (Catalog × Nat) := do
  let names ← normalizeTags tags
  let ids ← c.fileIds paths
  let rows := insertTags c.tags (ids.flatMap fun id => names.map fun name => (id, name))
  return (c.withTags rows, rows.length - c.tags.length)

/-- Takes every tag from every file, and returns the number of rows that went. The capacity is taken
to suffice. -/
def removeTags (c : Catalog) (paths tags : List String) : Except TaggingError (Catalog × Nat) := do
  let names ← normalizeTags tags
  let ids ← c.fileIds paths
  let rows := c.tags.filter fun (id, name) => !(ids.contains id && names.contains name)
  return (c.withTags rows, c.tags.length - rows.length)

/-- How many values the statements of a removal bind: the number of a file and all names. Without a
file there is no statement. -/
def removalSize (paths tags : List String) : Nat :=
  if paths.isEmpty then 0 else (tags.map Text.trim).eraseDups.length + 1

/-- Takes every tag from every file within a capacity. Tags and paths are checked first. -/
def removeTags? (c : Catalog) (capacity : Nat) (paths tags : List String) :
    Option (Except TaggingError (Catalog × Nat)) :=
  match c.removeTags paths tags with
  | .error e => some (.error e)
  | .ok r => if removalSize paths tags ≤ capacity then some (.ok r) else none

/-- The number of files that carry a tag. -/
def countTagged (c : Catalog) (name : String) : Nat := c.tags.countP (·.2 == name)

/-- The tags in use in increasing order, each with the number of its files. -/
def listTags (c : Catalog) : List (String × Nat) :=
  (((c.tags.map (·.2)).eraseDups).mergeSort fun a b => decide (a ≤ b)).map fun name =>
    (name, c.countTagged name)

/-- The tags of those of the given files that have any, by increasing number. The capacity is taken
to suffice. -/
def tagsByFile (c : Catalog) (ids : List Int) : List (Int × List String) :=
  ((ids.eraseDups.mergeSort fun a b => decide (a ≤ b)).map fun id => (id, c.tagsOf id)).filter
    fun (_, names) => !names.isEmpty

/-- The tags of files within a capacity. A number that is given twice counts twice. -/
def tagsByFile? (c : Catalog) (capacity : Nat) (ids : List Int) :
    Option (List (Int × List String)) :=
  if ids.length ≤ capacity then some (c.tagsByFile ids) else none

end Catalog

end TagSearch
