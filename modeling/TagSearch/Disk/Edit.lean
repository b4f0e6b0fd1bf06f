import TagSearch.Disk.Locate

/-!
# Changing a disk

The changes to a disk that are made through paths. Links on the way to the last name are followed.

* `Node.entryPlace` is the place of a directory entry, which need not exist.
* `Node.makeDirs` creates a directory and those that lead to it.
* `Node.writeAt`, `linkAt`, `removeAt` and `moveAt` write, link, remove and move.
-/

namespace TagSearch.Node

variable {α : Type}

/-- The place of an entry of an existing directory. The last name is not followed if it is a link,
and there need not be anything at it. -/
def entryPlace (disk : Node α) (cwd : Place) (p : PathText) : Except DiskFault Place :=
  if isPathTooLong p.toText then .error .nameTooLong
  else do
    let place ← disk.follow cwd p.parent.toText
    match disk.get? place with
    | none => .error .notFound
    | some (.dir _) =>
      if p.name = "" ∨ p.name = ".." then .error .exists
      else if isNameTooLong p.name then .error .nameTooLong
      else .ok (place ++ [p.name])
    | some _ => .error .notDirectory

/-- Creates an entry of an existing directory. -/
def makeEntry (disk : Node α) (cwd : Place) (p : PathText) (n : Node α) :
    Except DiskFault (Node α) := do
  let place ← disk.entryPlace cwd p
  if (disk.get? place).isSome then .error .exists
  else ((disk.put place n).map .ok).getD (.error .notFound)

/-! ## Directories -/

/-- What is left of a directory that was not created: a directory that was there is as good. -/
def acceptDir (disk : Node α) (cwd : Place) (p : PathText) (fault : DiskFault) :
    Except (Node α × FileFault) (Node α) :=
  match disk.find? cwd p with
  | .ok (some (.dir _)) => .ok disk
  | .ok _ => .error (disk, ⟨fault, p⟩)
  | .error e => .error (disk, e)

/-- Creates a directory if there is none, after those that lead to it. An error comes with the disk
on which the directories made so far stay. -/
def makeDirs (disk : Node α) (cwd : Place) (p : PathText) :
    Except (Node α × FileFault) (Node α) :=
  match disk.makeEntry cwd p (.dir []) with
  | .ok disk => .ok disk
  | .error fault =>
    if fault = .notFound ∧ p.parts ≠ [] then do
      let disk ← disk.makeDirs cwd p.parent
      match disk.makeEntry cwd p (.dir []) with
      | .ok disk => .ok disk
      | .error fault => disk.acceptDir cwd p fault
    else disk.acceptDir cwd p fault
termination_by p.parts.length
decreasing_by
  have := List.length_pos_iff.mpr ‹fault = .notFound ∧ p.parts ≠ []›.2
  simp only [PathText.parent, List.length_dropLast]
  omega

/-! ## Files and links -/

/-- Writes a file at a place. Its directory must exist. -/
def writeFile (disk : Node α) (place : Place) (content : α) : Except DiskFault (Node α) :=
  match disk.get? place with
  | some (.dir _) => .error .isDirectory
  | _ => ((disk.put place (.file content)).map .ok).getD (.error .notFound)

/-- Writes a file that a path leads to, and the directories on the way to it. If `keep`, a file that
exists stays. -/
def writeAt (disk : Node α) (cwd : Place) (p : PathText) (content : α) (keep : Bool) :
    Except (Node α × FileFault) (Node α) := do
  let disk ← disk.makeDirs cwd p.parent
  let written := do
    let place ← disk.follow cwd p.toText
    if keep && (disk.get? place).isSome then return disk
    disk.writeFile place content
  written.mapError fun fault => (disk, ⟨fault, p⟩)

/-- Makes a link and the directories on the way to it. -/
def linkAt (disk : Node α) (cwd : Place) (p : PathText) (target : String) :
    Except (Node α × FileFault) (Node α) := do
  let disk ← disk.makeDirs cwd p.parent
  (disk.makeEntry cwd p (.link target)).mapError fun fault => (disk, ⟨fault, p⟩)

/-! ## Removing and moving -/

/-- Removes a file, a link, or a directory with everything in it. -/
def removeAt (disk : Node α) (cwd : Place) (p : PathText) : Except DiskFault (Node α) := do
  let place ← disk.entryPlace cwd p
  if (disk.get? place).isSome then .ok (disk.erase place) else .error .notFound

/-- Moves a node. A file or an empty directory that stands at the new place is replaced, a file by
a file or link and a directory by a directory. -/
def move (disk : Node α) (old new : Place) : Except DiskFault (Node α) := do
  let some n := disk.get? old | .error .notFound
  if old = new then return disk
  if n.isDir && old.isPrefixOf new then .error .invalid
  match disk.get? new with
  | some (.dir es) =>
    if !n.isDir then .error .isDirectory
    if !es.isEmpty then .error .notEmpty
  | some _ => if n.isDir then .error .notDirectory
  | none => pure ()
  match (disk.erase old).put new n with
  | some disk => return disk
  | none => .error .notFound

/-- Moves a node to a path in a directory that exists. -/
def moveAt (disk : Node α) (cwd : Place) (old new : PathText) : Except DiskFault (Node α) := do
  disk.move (← disk.entryPlace cwd old) (← disk.entryPlace cwd new)

end TagSearch.Node
