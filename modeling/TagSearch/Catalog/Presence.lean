import TagSearch.Catalog.Basic

/-!
# Files that come, go and move

The operations on the recorded files that follow what happens on disk. A file that goes stays
recorded as missing and keeps its tags; a file that moves keeps its number and its tags.

* `place`, `markMissing` and `rename` treat one path; `markDirMissing` and `renameDir` treat every
  present file below a directory.
* `sync` brings the recorded files in line with the paths that a scan found.
-/

namespace TagSearch.Catalog

/-! ## One path -/

/-- Records a path as present, under its old number if it has one. -/
def place (c : Catalog) (path : String) : Catalog :=
  match c.find? path with
  | none => c.insert path
  | some f => c.update f.id fun r => { r with present := true }

/-- Records a path as missing; an unknown path changes nothing. -/
def markMissing (c : Catalog) (path : String) : Catalog :=
  match c.find? path with
  | none => c
  | some f => c.update f.id fun r => { r with present := false }

/-- Gives the file at `old` the path `new` and makes it present. Another file recorded at `new` is
removed. If no file is recorded at `old`, the path `new` is recorded as present. -/
def rename (c : Catalog) (old new : String) : Catalog :=
  match c.find? old with
  | none => c.place new
  | some f =>
    let cleared := match c.find? new with
      | some g => if g.id = f.id then c else c.remove g.id
      | none => c
    cleared.update f.id fun r => { r with path := new, present := true }

/-! ## The files below a directory -/

/-- Whether a path lies below a directory: it starts with the directory and a slash. As in
comparisons of paths with patterns, a path counts up to its first NUL. -/
def isBelow (dir path : String) : Bool :=
  let lead := dir.toList ++ ['/']
  (path.toList.takeWhile (· != '\x00')).take lead.length == lead

/-- The present files below a directory, by increasing number. -/
def presentBelow (c : Catalog) (dir : String) : List FileRecord :=
  c.files.filter fun f => isBelow dir f.path && f.present

/-- Records every file below a directory as missing. -/
def markDirMissing (c : Catalog) (dir : String) : Catalog :=
  { c with
    files := c.files.map fun r => if isBelow dir r.path then { r with present := false } else r }

/-- A path below `old` with `new` in its place. -/
def rebase (old new path : String) : String := new ++ String.ofList (path.toList.drop old.length)

/-- The single moves that the move of a directory consists of. -/
def dirMoves (c : Catalog) (old new : String) : List (String × String) :=
  (c.presentBelow old).map fun f => (f.path, rebase old new f.path)

/-- Moves every present file below `old` to the same place below `new`, one after the other. -/
def renameDir (c : Catalog) (old new : String) : Catalog :=
  (c.dirMoves old new).foldl (fun c (a, b) => c.rename a b) c

/-! ## A whole scan -/

/-- What a scan changed: the files added, newly missing, and removed. -/
structure SyncCounts where
  added : Nat
  missing : Nat
  pruned : Nat
  deriving DecidableEq, Repr

/-- The paths found that are not recorded, each once and in increasing order. -/
def newPaths (c : Catalog) (found : List String) : List String :=
  ((found.filter fun p => (c.find? p).isNone).eraseDups).mergeSort fun a b => decide (a ≤ b)

/-- The recorded files in line with the paths found: new paths are recorded, those found are
present, and of the rest each is missing or, if `prune`, removed with its tags. -/
def sync (c : Catalog) (found : List String) (prune : Bool) : Catalog :=
  let grown := (c.newPaths found).foldl insert c
  if prune then
    let gone := (grown.files.filter fun f => !found.contains f.path).map (·.id)
    { grown with
      files := (grown.files.filter fun f => found.contains f.path).map ({ · with present := true })
      tags := grown.tags.filter fun t => !gone.contains t.1 }
  else
    { grown with files := grown.files.map fun f => { f with present := found.contains f.path } }

/-- What `sync` changes. -/
def syncCounts (c : Catalog) (found : List String) (prune : Bool) : SyncCounts where
  added := (c.newPaths found).length
  missing := if prune then 0 else c.files.countP fun f => f.present && !found.contains f.path
  pruned := if prune then c.files.countP fun f => !found.contains f.path else 0

end TagSearch.Catalog
