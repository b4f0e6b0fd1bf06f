import TagSearch.Disk.Path
import TagSearch.Disk.Tree
import TagSearch.Text.Display

/-!
# Finding nodes on a disk

A text is followed name by name through directories and links. Everything on the way must exist, at
most forty links are followed, and neither a name nor the text may be too long.

* `Node.follow` is the place that a text leads to; only its last name may be new.
* `Node.locate` and `Node.stat` are the place and the node of a text that names something.
* `Node.find?` tells whether a path names something, and what.
-/

namespace TagSearch

/-- Why something cannot be done with a path on a disk. -/
inductive DiskFault where
  | notFound
  | exists
  | notDirectory
  | isDirectory
  | invalid
  | nameTooLong
  | notEmpty
  | tooManyLinks
  deriving DecidableEq, Repr

/-- The number and the words that messages use for a fault. -/
def DiskFault.label : DiskFault → String
  | .notFound => "[Errno 2] No such file or directory"
  | .exists => "[Errno 17] File exists"
  | .notDirectory => "[Errno 20] Not a directory"
  | .isDirectory => "[Errno 21] Is a directory"
  | .invalid => "[Errno 22] Invalid argument"
  | .nameTooLong => "[Errno 36] File name too long"
  | .notEmpty => "[Errno 39] Directory not empty"
  | .tooManyLinks => "[Errno 40] Too many levels of symbolic links"

/-- A path that something cannot be done with. -/
structure FileFault where
  fault : DiskFault
  path : PathText
  deriving DecidableEq, Repr

/-- The wording of a file fault. -/
def FileFault.message (e : FileFault) : String :=
  e.fault.label ++ ": " ++ Text.display e.path.toText

/-- A place as a path. -/
def PathText.ofPlace (p : Place) : PathText := ⟨.top, p⟩

/-- The place that a text starts from if it is used at `here`: the top if it starts with a slash. -/
def startPlace (here : Place) (text : String) : Place :=
  if text.toList.head? = some '/' then [] else here

/-- The names of a text between its slashes, empty ones included. -/
def rawNames (s : String) : List String := (pieces s.toList).map String.ofList

/-- Whether a name has more bytes than one on a disk can have. -/
def isNameTooLong (name : String) : Bool := 255 < name.utf8ByteSize

/-- Whether a text has more bytes than a path can have. -/
def isPathTooLong (text : String) : Bool := 4095 < text.utf8ByteSize

namespace Node

variable {α : Type}

/-- The place reached from `here` by some names, after at most `budget` links. There need not be
anything at the last name. -/
def followFrom (disk : Node α) (budget : Nat) (here : Place) :
    List String → Except DiskFault Place
  | [] => .ok here
  | name :: rest =>
    match disk.get? here with
    | some (.dir _) =>
      if name = "" ∨ name = "." then disk.followFrom budget here rest
      else if name = ".." then disk.followFrom budget here.dropLast rest
      else if isNameTooLong name then .error .nameTooLong
      else
        match disk.get? (here ++ [name]) with
        | none => if rest.isEmpty then .ok (here ++ [name]) else .error .notFound
        | some (.link target) =>
          match budget with
          | 0 => .error .tooManyLinks
          | budget + 1 => disk.followFrom budget (startPlace here target) (rawNames target ++ rest)
        | some _ => disk.followFrom budget (here ++ [name]) rest
    | _ => .error .notDirectory
termination_by names => (budget, names.length)

/-- The number of links that are followed to find a node. -/
def linkBudget : Nat := 40

/-- The place that a text leads to from the directory `cwd`. There need not be anything at its last
name. -/
def follow (disk : Node α) (cwd : Place) (text : String) : Except DiskFault Place :=
  if text = "" then .error .notFound
  else if isPathTooLong text then .error .nameTooLong
  else disk.followFrom linkBudget (startPlace cwd text) (rawNames text)

/-- The place of the node that a text names from the directory `cwd`. -/
def locate (disk : Node α) (cwd : Place) (text : String) : Except DiskFault Place := do
  let place ← disk.follow cwd text
  if (disk.get? place).isSome then .ok place else .error .notFound

/-- The node that a text names from the directory `cwd`. -/
def stat (disk : Node α) (cwd : Place) (text : String) : Except DiskFault (Node α) := do
  let place ← disk.follow cwd text
  match disk.get? place with
  | some n => .ok n
  | none => .error .notFound

/-- The node that a path names, if it names one. A path that is too long is a fault, because nothing
can be found out about it. -/
def find? (disk : Node α) (cwd : Place) (p : PathText) : Except FileFault (Option (Node α)) :=
  match disk.stat cwd p.toText with
  | .ok n => .ok (some n)
  | .error .nameTooLong => .error ⟨.nameTooLong, p⟩
  | .error _ => .ok none

end Node

end TagSearch
