import TagSearch.Catalog.Change

/-!
# Notices

What a run reports about its work: the progress of a scan, and in detail every change to a file.

* `Catalog.scanNotices`, `Catalog.placeNotices`, … list the notices of an operation on a catalog.
-/

namespace TagSearch

/-- A line about the work in progress. -/
inductive Notice where
  | scanning (root : String)
  | found (count : Nat)
  | synced (counts : Catalog.SyncCounts)
  | refreshing
  | indexed (path : String)
  | markedMissing (path : String)
  | moved (old new : String)
  | markedDir (count : Nat) (dir : String)
  deriving DecidableEq, Repr

namespace Notice

/-- Whether a notice is about a single change, which only a detailed report shows. -/
def isDetail : Notice → Bool
  | .scanning _ | .found _ | .synced _ | .refreshing => false
  | _ => true

/-- The wording of a notice. -/
def text : Notice → String
  | .scanning root => "Scanning " ++ root ++ "..."
  | .found count => "Found " ++ toString count ++ " files"
  | .synced n =>
    toString n.added ++ " new, " ++ toString n.missing ++ " missing, " ++
      toString n.pruned ++ " pruned"
  | .refreshing => "Rebuilding FTS5 index..."
  | .indexed path => "Indexed " ++ path
  | .markedMissing path => "Marked missing " ++ path
  | .moved old new => "Moved " ++ old ++ " -> " ++ new
  | .markedDir count dir => "Marked " ++ toString count ++ " missing under " ++ dir ++ "/"

end Notice

namespace Catalog

/-- The notices of a scan that found some paths. -/
def scanNotices (c : Catalog) (found : List String) (prune : Bool) : List Notice :=
  [.found found.length, .synced (c.syncCounts found prune), .refreshing]

/-- The notices of `place`. -/
def placeNotices (c : Catalog) (path : String) : List Notice :=
  if (c.find? path).isNone then [.indexed path] else []

/-- The notices of `markMissing`. -/
def markMissingNotices (c : Catalog) (path : String) : List Notice :=
  if (c.find? path).isNone then [] else [.markedMissing path]

/-- The notices of `rename`. -/
def renameNotices (c : Catalog) (old new : String) : List Notice :=
  if (c.find? old).isNone then c.placeNotices new else [.moved old new]

/-- The notices of `markDirMissing`. -/
def markDirNotices (c : Catalog) (dir : String) : List Notice :=
  let count := (c.presentBelow dir).length
  if count = 0 then [] else [.markedDir count dir]

/-- The notices of `renameDir`. -/
def renameDirNotices (c : Catalog) (old new : String) : List Notice :=
  ((c.dirMoves old new).foldl
    (fun (c, notices) (a, b) => (c.rename a b, notices ++ c.renameNotices a b))
    (c, ([] : List Notice))).2

/-- The notices of one change. -/
def stepNotices (c : Catalog) (e : Change) : List Notice :=
  match e.kind, e.dest? with
  | .created, _ => c.placeNotices e.path
  | .deleted, _ => c.markMissingNotices e.path
  | .moved, some dest => c.renameNotices e.path dest
  | .dirDeleted, _ => c.markDirNotices e.path
  | .dirMoved, some dest => c.renameDirNotices e.path dest
  | _, none => []

/-- The notices of changes applied in order. -/
def changeNotices (c : Catalog) (events : List Change) : List Notice :=
  (events.foldl (fun (c, notices) e => ((c.step e).1, notices ++ c.stepNotices e))
    (c, ([] : List Notice))).2

end Catalog

end TagSearch
