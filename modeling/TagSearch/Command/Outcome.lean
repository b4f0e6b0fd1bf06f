import TagSearch.Catalog.Notice
import TagSearch.Command.IndexFile
import TagSearch.Console.Report
import TagSearch.Settings.File

/-!
# Outcomes

What a command leaves: a code, a report, and the host with what changed on its disk.

* `ExitCode` tells how a command ended.
* `CommandContext` is what all commands share: the settings, how much is reported, and the capacity
  of the engine that keeps indexes.

Reporting never fails here, since the texts in messages are taken to be free of brackets
(`isBracketFree`): in others what looks like a style can end the run.
-/

namespace TagSearch

/-- How a command ended. -/
inductive ExitCode where
  | success
  /-- Settings, a query or a tag are wrong, or a file is not to be overwritten. -/
  | refused
  /-- Something failed that no command expects; nothing is reported about it. -/
  | failed
  /-- The index cannot be used, or a file is not in it. -/
  | indexError
  /-- The command line is wrong. -/
  | usageError
  /-- There is no directory to search. -/
  | noRoot
  deriving DecidableEq, Repr

/-- The number of a code. -/
def ExitCode.toNat : ExitCode → Nat
  | .success => 0
  | .refused => 1
  | .failed => 1
  | .indexError => 2
  | .usageError => 2
  | .noRoot => 3

/-- What a command leaves. -/
structure Outcome where
  code : ExitCode
  report : Report
  host : Host

/-- How many values a statement on an index can bind, unless the engine was built otherwise. -/
def usualCapacity : Nat := 32766

/-- What all commands share. -/
structure CommandContext where
  host : Host
  settings : Settings
  /-- How many values a statement on an index can bind. -/
  capacity : Nat
  /-- Whether the progress of a scan is reported. -/
  verbose : Bool
  /-- Whether every change of a file is reported. -/
  debug : Bool
  /-- Whether only results and errors are reported. -/
  quiet : Bool

/-- Adds notices: those about the progress if `verbose`, those about single changes if `debug`. -/
def Report.tell (r : Report) (verbose debug : Bool) (notices : List Notice) : Report :=
  r.addAll (fun r notice =>
    if notice.isDetail then if debug then r.note ("[DEBUG] " ++ notice.text) else r
    else if verbose then r.info notice.text else r) notices

/-- Adds why an index cannot be used. -/
def Report.indexError (r : Report) (reason : String) : Report := r.fail ("Index error: " ++ reason)

namespace CommandContext

/-- Reports notices, as far as they are asked for. -/
def tell (c : CommandContext) (r : Report) (notices : List Notice) : Report :=
  r.tell c.verbose c.debug notices

/-- Reports something unless only results and errors are asked for. -/
def unlessQuiet (c : CommandContext) (r : Report) (add : Report → Report) : Report :=
  if c.quiet then r else add r

/-- An outcome that leaves the host as it is. -/
def leave (c : CommandContext) (code : ExitCode) (r : Report) : Outcome := ⟨code, r, c.host⟩

/-- Goes on with the directory of the settings, if it is one. -/
def withRoot (c : CommandContext) (r : Report) (go : PathText → Outcome) : Outcome :=
  let root := c.settings.root
  match c.host.disk.find? c.host.cwd root with
  | .ok (some (.dir _)) => go root
  | .ok _ =>
    c.leave .noRoot ((r.fail ("Root directory not found: " ++ root.toText)).hint
      "Use --root or set paths.root in config")
  | .error _ => c.leave .failed r

/-- Goes on with a session on the index of a directory, if it can be opened. -/
def withIndex (c : CommandContext) (r : Report) (root : PathText)
    (go : IndexSession → Outcome) : Outcome :=
  match c.host.openIndex root with
  | .ok s => go s
  | .error e => c.leave .indexError (r.indexError e.message)

/-- Goes on with a session on the index of a directory. Nothing is reported if it cannot be
opened. -/
def withEditedIndex (c : CommandContext) (r : Report) (root : PathText)
    (go : IndexSession → Outcome) : Outcome :=
  match c.host.openIndex root with
  | .ok s => go s
  | .error _ => c.leave .failed r

/-- Scans a directory and takes over the result into its index. -/
def build (c : CommandContext) (s : IndexSession) (root : PathText) (prune : Bool) (r : Report) :
    Except ScanError (IndexSession × Nat × Report) := do
  let r := c.tell r [.scanning root.toText]
  let found ← s.host.disk.scanPaths s.host.cwd root
  let (session, count) := s.session.build root.toText found prune
  return ({ s with session }, count, c.tell r (s.session.catalog.scanNotices found prune))

end CommandContext

end TagSearch
