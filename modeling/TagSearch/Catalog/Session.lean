import TagSearch.Catalog.Change
import TagSearch.Catalog.Tagging

/-!
# Sessions on an index

An index is stored between sessions, possibly in an older shape: without the record of presence,
without tags, or with a token table that is absent or outdated. A session opens it, works on a
catalog and commits; what was not committed is lost when the session is aborted.

* `StoredIndex.open` brings a stored index up to date, `Catalog.stored` stores a catalog.
* `Session.build`, `addTags`, `removeTags` and `applyChanges` commit the changes that they make,
  and with them everything that was pending. `removeTags?` does so within a capacity.
-/

namespace TagSearch

/-! ## Stored indexes -/

/-- The files of a stored index. -/
inductive StoredFiles where
  /-- Numbers and paths, without the record of presence. -/
  | withoutPresence (rows : List (Int × String))
  /-- Full records. -/
  | records (rows : List FileRecord)
  deriving DecidableEq, Repr

/-- The columns of a token table: the text cell and the number of the file. -/
def tokenColumns : List String := ["tag_key", "file_id"]

/-- The token table of a stored index. Where there is no table there are no columns. The rows of a
table with other columns than those in use are never read. -/
structure StoredTokens where
  columns : List String
  rows : List (String × Int)
  deriving DecidableEq, Repr

namespace StoredTokens

/-- No token table. -/
def absent : StoredTokens := ⟨[], []⟩

/-- A token table with cells for tags as they are, not for their digits. -/
def outdated : StoredTokens := ⟨["tag", "file_id"], []⟩

/-- A token table with the columns in use. -/
def current (rows : List (String × Int)) : StoredTokens := ⟨tokenColumns, rows⟩

/-- The token table with the columns in use, and whether it was made without rows, in place of one
that is absent or has other columns. -/
def create (t : StoredTokens) : StoredTokens × Bool :=
  if t.columns = tokenColumns then (t, false) else (current [], true)

end StoredTokens

/-- An index between sessions. -/
structure StoredIndex where
  files : StoredFiles
  tags? : Option (List (Int × String))
  tokens : StoredTokens
  state : Option ScanState
  deriving DecidableEq, Repr

/-- The records of stored files; without a record of presence every file is present. -/
def StoredFiles.toRecords : StoredFiles → List FileRecord
  | .withoutPresence rows => rows.map fun (id, path) => ⟨id, path, true⟩
  | .records rows => rows

namespace StoredIndex

/-- The index with all its tables: one that is missing has no rows. -/
def createTables (s : StoredIndex) : StoredIndex := { s with tags? := some (s.tags?.getD []) }

/-- The index with the record of presence. -/
def addPresence (s : StoredIndex) : StoredIndex := { s with files := .records s.files.toRecords }

/-- The tables of an index as they are read, the files by increasing number. -/
def read (s : StoredIndex) : Catalog where
  files := s.files.toRecords.mergeSort fun f g => decide (f.id ≤ g.id)
  tags := s.tags?.getD []
  tokens := s.tokens.rows
  state := s.state

end StoredIndex

/-- The catalog of a stored index. The tables and the record of presence are brought up to date
first; a token table that is absent or outdated is made anew from the tags. -/
def StoredIndex.open (s : StoredIndex) : Catalog :=
  let s := s.createTables.addPresence
  let (tokens, isNew) := s.tokens.create
  let c := { s with tokens }.read
  if isNew then c.refreshTokens else c

/-- A catalog as it is stored. -/
def Catalog.stored (c : Catalog) : StoredIndex :=
  ⟨.records c.files, some c.tags, .current c.tokens, c.state⟩

/-! ## Sessions -/

/-- The tables that a session sees, and those that were committed last. -/
structure Session where
  catalog : Catalog
  committed : Catalog
  deriving DecidableEq, Repr

namespace Session

/-- A session on a stored index. -/
def start (s : StoredIndex) : Session := ⟨s.open, s.open⟩

/-- A session on a new index. -/
def fresh : Session := ⟨.empty, .empty⟩

/-- Commits everything that is pending. -/
def commit (s : Session) : Session := { s with committed := s.catalog }

/-- The index that a session leaves when it ends normally. -/
def close (s : Session) : StoredIndex := s.catalog.stored

/-- The index that a session leaves when it ends by an error. -/
def abort (s : Session) : StoredIndex := s.committed.stored

/-- Changes the tables, without committing. -/
def modify (s : Session) (f : Catalog → Catalog) : Session := { s with catalog := f s.catalog }

/-- The tables with the result of a scan of `root`: the files, a fresh token table, the state. -/
def scanned (c : Catalog) (root : String) (found : List String) (prune : Bool) : Catalog :=
  let c := (c.sync found prune).refreshTokens
  { c with state := some ⟨root, c.presentCount⟩ }

/-- Takes over the result of a scan of `root` and commits. Returns the number of present files. -/
def build (s : Session) (root : String) (found : List String) (prune : Bool) : Session × Nat :=
  let c := scanned s.catalog root found prune
  ((s.modify fun _ => c).commit, c.presentCount)

/-- Takes over changed tables, and commits if the count is positive. -/
def settle (s : Session) (r : Catalog × Nat) : Session × Nat :=
  let s := s.modify fun _ => r.1
  (if r.2 = 0 then s else s.commit, r.2)

/-- Adds tags, and commits if some tag is new. -/
def addTags (s : Session) (paths tags : List String) : Except TaggingError (Session × Nat) :=
  (s.catalog.addTags paths tags).map s.settle

/-- Removes tags, and commits if some tag goes. -/
def removeTags (s : Session) (paths tags : List String) : Except TaggingError (Session × Nat) :=
  (s.catalog.removeTags paths tags).map s.settle

/-- Removes tags within a capacity, and commits if some tag goes. -/
def removeTags? (s : Session) (capacity : Nat) (paths tags : List String) :
    Option (Except TaggingError (Session × Nat)) :=
  (s.catalog.removeTags? capacity paths tags).map fun r => r.map s.settle

/-- Applies changes, and commits if some change counts. -/
def applyChanges (s : Session) (events : List Change) : Session × Nat :=
  s.settle (s.catalog.applyChanges events)

end Session

end TagSearch
