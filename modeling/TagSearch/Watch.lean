import TagSearch.Catalog.Change
import TagSearch.Disk.Scan

/-!
# Watching a directory

Events about single files and directories on disk are turned into changes of the indexed files. A
directory that appears is scanned, and each file found in it is a change of its own; a directory
that goes or moves is one change.

* `Watch.relative?` is the path of an event below the watched directory, if it matters.
* `Watch.changes` lists the changes of an event, `Watch.dispatch` queues them.
* `Watch.fault?` tells whether an event cannot be handled.
* `Watch.drain` takes everything from the queue.
-/

namespace TagSearch

/-- The sorts of events. -/
inductive EventKind where
  | created
  | deleted
  | moved
  | modified
  | opened
  | closed
  deriving DecidableEq, Repr

/-- Something that happened to a path on disk. -/
structure DiskEvent where
  kind : EventKind
  src : String
  dest : String
  isDir : Bool
  deriving DecidableEq, Repr

/-- A watched directory and the changes that wait to be applied. -/
structure Watch where
  root : PathText
  queue : List Change
  deriving DecidableEq, Repr

namespace Watch

/-- The text of a path below the watched directory. The directory itself, paths outside it, and
files of the index do not matter. -/
def relative? (root p : PathText) : Option String :=
  if isIndexFile p.name then none
  else
    match p.relativeTo? root with
    | none => none
    | some [] => none
    | some names => some (joinNames names)

/-- The directory that appears in the watched one, if an event says so. -/
def appearing? (root : PathText) (e : DiskEvent) : Option PathText :=
  let src := PathText.ofText e.src
  let dest := PathText.ofText e.dest
  if !e.isDir then none
  else
    match e.kind, relative? root src, relative? root dest with
    | .created, some _, _ => some src
    | .moved, none, some _ => some dest
    | _, _, _ => none

/-- The changes that the appearance of a directory brings: its files in increasing order. They come
in the order in which the directory is listed, which is not fixed, and are put in order here. -/
def appeared {α : Type} (disk : Node α) (cwd : Place) (root dir : PathText) : List Change :=
  match disk.scanPaths cwd dir with
  | .error _ => []
  | .ok paths =>
    let inside := paths.filterMap fun p => relative? root (dir.join (.ofText p))
    (inside.mergeSort fun a b => decide (a ≤ b)).map fun p => ⟨.created, p, none⟩

/-- The change of an event about which no directory has to be scanned. -/
def change? (root : PathText) (e : DiskEvent) : Option Change :=
  match e.kind, relative? root (.ofText e.src), relative? root (.ofText e.dest) with
  | .created, some path, _ => some ⟨.created, path, none⟩
  | .deleted, some path, _ => some ⟨if e.isDir then .dirDeleted else .deleted, path, none⟩
  | .moved, some path, some new => some ⟨if e.isDir then .dirMoved else .moved, path, some new⟩
  | .moved, none, some new => some ⟨.created, new, none⟩
  | .moved, some path, none => some ⟨if e.isDir then .dirDeleted else .deleted, path, none⟩
  | _, _, _ => none

/-- The changes of an event. -/
def changes {α : Type} (disk : Node α) (cwd : Place) (root : PathText) (e : DiskEvent) :
    List Change :=
  match appearing? root e with
  | some dir => appeared disk cwd root dir
  | none => (change? root e).toList

/-- A watch of a directory with an empty queue. -/
def start (root : PathText) : Watch := ⟨root, []⟩

/-- Puts one change at the end of the queue. -/
def push (w : Watch) (e : Change) : Watch := { w with queue := w.queue ++ [e] }

/-- Queues the changes of an event, one after the other. -/
def dispatch {α : Type} (w : Watch) (disk : Node α) (cwd : Place) (e : DiskEvent) : Watch :=
  (changes disk cwd w.root e).foldl push w

/-- Why an event cannot be handled, if it reports a directory with a path that is too long. -/
def fault? {α : Type} (w : Watch) (disk : Node α) (cwd : Place) (e : DiskEvent) :
    Option FileFault :=
  (appearing? w.root e).bind fun dir =>
    match disk.scanPaths cwd dir with
    | .error (.unknown fault) => some fault
    | _ => none

/-- The queued changes, and the watch with an empty queue. -/
def drain (w : Watch) : List Change × Watch := (w.queue, { w with queue := [] })

end Watch

end TagSearch
