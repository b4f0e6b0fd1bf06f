import TagSearch.Catalog.Presence
import TagSearch.Catalog.TokenTable

/-!
# Changes on disk

A change tells that a file or directory was created, deleted or moved, with paths relative to the
indexed directory. Changes are applied in order; a change counts if it concerns a recorded file.

* `Catalog.step` applies one change and tells whether it counts.
* `Catalog.applyChanges` applies a list and returns the number of changes that count. If there is
  one, the token table is refreshed.
-/

namespace TagSearch

/-- The sorts of changes. -/
inductive ChangeKind where
  | created
  | deleted
  | moved
  | dirDeleted
  | dirMoved
  deriving DecidableEq, Repr

/-- A change of a file or directory, with the place that it moved to. -/
structure Change where
  kind : ChangeKind
  path : String
  dest? : Option String
  deriving DecidableEq, Repr

namespace ChangeKind

/-- The word for a sort of change. -/
def name : ChangeKind → String
  | .created => "created"
  | .deleted => "deleted"
  | .moved => "moved"
  | .dirDeleted => "dir_deleted"
  | .dirMoved => "dir_moved"

/-- The sort of change that a word stands for. -/
def ofName? (word : String) : Option ChangeKind :=
  [created, deleted, moved, dirDeleted, dirMoved].find? (·.name == word)

end ChangeKind

namespace Catalog

/-- Applies a change, and tells whether it counts. A move without a destination does not. -/
def step (c : Catalog) (e : Change) : Catalog × Bool :=
  match e.kind, e.dest? with
  | .created, _ => (c.place e.path, true)
  | .deleted, _ => (c.markMissing e.path, (c.find? e.path).isSome)
  | .moved, some dest => (c.rename e.path dest, true)
  | .dirDeleted, _ => (c.markDirMissing e.path, !(c.presentBelow e.path).isEmpty)
  | .dirMoved, some dest => (c.renameDir e.path dest, !(c.presentBelow e.path).isEmpty)
  | .moved, none => (c, false)
  | .dirMoved, none => (c, false)

/-- Applies changes in order, and counts. -/
def steps (c : Catalog) (events : List Change) : Catalog × Nat :=
  events.foldl
    (fun (c, n) e =>
      let (c, counts) := c.step e
      (c, if counts then n + 1 else n))
    (c, 0)

/-- Applies changes in order, counts, and refreshes the token table if some change counts. -/
def applyChanges (c : Catalog) (events : List Change) : Catalog × Nat :=
  let (c, n) := c.steps events
  (if n = 0 then c else c.refreshTokens, n)

end Catalog

end TagSearch
