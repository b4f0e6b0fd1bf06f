import TagSearch.Text.Blank

/-!
# The catalog of tagged files

A catalog records files by a number, a path and whether the path is present, the tags of each
number, the rows of the token table through which tags are searched, and the last scan.

* `Catalog.find?` looks a path up, `Catalog.insert` records a new one under the next number.
* `Catalog.Consistent` is what every operation keeps: numbers and paths are distinct, numbers are
  positive, and tags are trimmed, belong to recorded files and are not repeated.
-/

namespace TagSearch

/-- A recorded file. -/
structure FileRecord where
  id : Int
  path : String
  present : Bool
  deriving DecidableEq, Repr

/-- The last scan: the directory that was scanned and the number of files present in it. When it was
is not kept. -/
structure ScanState where
  root : String
  count : Nat
  deriving DecidableEq, Repr

/-- The tables of an index. -/
structure Catalog where
  /-- The files by increasing number. -/
  files : List FileRecord
  /-- The tags of the files, each by the number of its file. -/
  tags : List (Int × String)
  /-- The token table: a cell of text and the number of a file. -/
  tokens : List (String × Int)
  /-- The last scan, if there was one. -/
  state : Option ScanState
  deriving DecidableEq, Repr

namespace Catalog

/-- The catalog without rows. -/
def empty : Catalog := ⟨[], [], [], none⟩

/-- The file recorded under a path. -/
def find? (c : Catalog) (path : String) : Option FileRecord := c.files.find? (·.path == path)

/-- The number for the next file: one more than the largest in use, and one if there is none. -/
def nextId (c : Catalog) : Int :=
  match c.files.map (·.id) with
  | [] => 1
  | id :: ids => ids.foldl max id + 1

/-- A new file under the next number. -/
def insert (c : Catalog) (path : String) : Catalog :=
  { c with files := c.files ++ [⟨c.nextId, path, true⟩] }

/-- The file of one number changed. -/
def update (c : Catalog) (id : Int) (f : FileRecord → FileRecord) : Catalog :=
  { c with files := c.files.map fun r => if r.id = id then f r else r }

/-- The file of one number removed, and its tags with it. -/
def remove (c : Catalog) (id : Int) : Catalog :=
  { c with
    files := c.files.filter (·.id != id)
    tags := c.tags.filter (·.1 != id) }

/-- The number of files that are present. -/
def presentCount (c : Catalog) : Nat := c.files.countP (·.present)

/-- The tags of a file in increasing order, each once. -/
def tagsOf (c : Catalog) (id : Int) : List String :=
  ((c.tags.filter (·.1 == id)).map (·.2)).eraseDups.mergeSort fun a b => decide (a ≤ b)

/-- The tags of all files by increasing number, each once for a file. -/
def tagRows (c : Catalog) : List (Int × String) :=
  c.tags.eraseDups.mergeSort fun a b => decide (a.1 < b.1 ∨ (a.1 = b.1 ∧ a.2 ≤ b.2))

/-- The tables as every operation keeps them. -/
structure Consistent (c : Catalog) : Prop where
  ids_distinct : (c.files.map (·.id)).Nodup
  ids_positive : ∀ f ∈ c.files, 0 < f.id
  paths_distinct : (c.files.map (·.path)).Nodup
  tags_distinct : c.tags.Nodup
  tags_recorded : ∀ t ∈ c.tags, ∃ f ∈ c.files, f.id = t.1
  tags_trimmed : ∀ t ∈ c.tags, t.2 ≠ "" ∧ Text.trim t.2 = t.2

theorem consistent_empty : empty.Consistent where
  ids_distinct := by simp [empty]
  ids_positive := by simp [empty]
  paths_distinct := by simp [empty]
  tags_distinct := by simp [empty]
  tags_recorded := by simp [empty]
  tags_trimmed := by simp [empty]

end Catalog

/-- A recorded file by its number and path. -/
def FileRecord.display (f : FileRecord) : String :=
  "<IndexedFile(id=" ++ toString f.id ++ ", path='" ++ f.path ++ "')>"

/-- A tag by the number of its file and its name. -/
def displayTagRow (row : Int × String) : String :=
  "<FileTag(file_id=" ++ toString row.1 ++ ", tag='" ++ row.2 ++ "')>"

/-- The last scan by its directory and count. -/
def ScanState.display (s : ScanState) : String :=
  "<IndexState(root='" ++ s.root ++ "', files=" ++ toString s.count ++ ")>"

end TagSearch
