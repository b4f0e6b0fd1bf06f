import TagSearch.Command.Run

/-!
# Scripts

A script builds a disk and runs command lines on it. A line is a list of words between tabs: the
first one says what to do, the others are paths or arguments.

* `ScriptLine.ofText?` reads a line, `Host.obey` does what it says.
-/

namespace TagSearch

/-- A line of a script. -/
inductive ScriptLine where
  | makeDirs (path : String)
  | write (path text : String)
  | link (path target : String)
  | remove (path : String)
  | move (old new : String)
  | run (arguments : List String)
  deriving DecidableEq, Repr

/-- The words of a line. -/
def ScriptLine.words (line : String) : List String :=
  (line.toList.splitOnP (· == '\t')).map String.ofList

/-- The line that some words make. -/
def ScriptLine.ofWords? : List String → Option ScriptLine
  | ["mkdir", path] => some (.makeDirs path)
  | ["write", path, text] => some (.write path text)
  | ["link", path, target] => some (.link path target)
  | ["remove", path] => some (.remove path)
  | ["move", old, new] => some (.move old new)
  | "run" :: arguments => some (.run arguments)
  | _ => none

/-- The line that a text stands for. -/
def ScriptLine.ofText? (line : String) : Option ScriptLine := ofWords? (words line)

namespace Host

/-- The host that scripts start from: an empty disk, used from its top. -/
def blank : Host := ⟨.dir [], [], "/", []⟩

/-- The host with a disk that was changed through paths. -/
def withDisk (h : Host) (r : Except (Node Content × FileFault) (Node Content)) :
    Except DiskFault Host :=
  match r with
  | .ok disk => .ok { h with disk }
  | .error (_, e) => .error e.fault

/-- Does what a line says. Only a command line has an outcome. -/
def obey (h : Host) : ScriptLine → Except DiskFault (Host × Option Outcome)
  | .makeDirs path => (h.withDisk (h.disk.makeDirs h.cwd (.ofText path))).map (·, none)
  | .write path text =>
    (h.withDisk (h.disk.writeAt h.cwd (.ofText path) (.text text) false)).map (·, none)
  | .link path target => (h.withDisk (h.disk.linkAt h.cwd (.ofText path) target)).map (·, none)
  | .remove path =>
    (h.disk.removeAt h.cwd (.ofText path)).map fun disk => ({ h with disk }, none)
  | .move old new =>
    (h.disk.moveAt h.cwd (.ofText old) (.ofText new)).map fun disk => ({ h with disk }, none)
  | .run arguments =>
    let outcome := h.run arguments []
    .ok (outcome.host, some outcome)

end Host

end TagSearch
