import TagSearch.Command.Outcome
import TagSearch.Watch

/-!
# The commands `rebuild-index` and `watch`

Both bring the index of a directory in line with the disk: the first one once, the second one also
while files change. Time passes in ticks; with each tick come the events since the last one.

* `CommandContext.rebuildIndex` and `CommandContext.watch` carry out the commands.
-/

namespace TagSearch.CommandContext

/-- What is reported about an index that was rebuilt. -/
def rebuiltMessage (total count : Nat) : String :=
  let missing := total - count
  "Index rebuilt with " ++ toString count ++ " files" ++
    if missing = 0 then "" else " (" ++ toString missing ++ " missing)"

/-- The command `rebuild-index`. -/
def rebuildIndex (c : CommandContext) (prune : Bool) (r : Report) : Outcome :=
  c.withRoot r fun root =>
    c.withIndex r root fun s =>
      let r := c.unlessQuiet r (·.info ("Indexing " ++ root.toText ++ "..."))
      match c.build s root prune r with
      | .error e => ⟨.indexError, r.indexError e.message, s.abort⟩
      | .ok (s, count, r) =>
        let total := s.session.catalog.files.length
        ⟨.success, c.unlessQuiet r (·.success (rebuiltMessage total count)), s.close⟩

/-- A watch in progress. -/
structure Watching where
  watch : Watch
  index : IndexSession
  report : Report

/-- One tick of a watch: its events are queued, and what is queued is applied. An event that cannot
be handled ends the watch as it was before the tick. -/
def tick (c : CommandContext) (s : Watching) (events : List DiskEvent) :
    Except (FileFault × Watching) Watching :=
  let h := s.index.host
  match events.findSome? (s.watch.fault? h.disk h.cwd) with
  | some fault => .error (fault, s)
  | none =>
    let w := events.foldl (fun w e => w.dispatch h.disk h.cwd e) s.watch
    let (changes, w) := w.drain
    let r := c.tell s.report (s.index.session.catalog.changeNotices changes)
    let (session, count) := s.index.session.applyChanges changes
    let asked := c.verbose && 0 < count
    .ok ⟨w, { s.index with session },
      if asked then r.info ("Applied " ++ toString count ++ " change(s)") else r⟩

/-- The command `watch`, stopped after some ticks. -/
def watch (c : CommandContext) (ticks : List (List DiskEvent)) (r : Report) : Outcome :=
  c.withRoot r fun root =>
    c.withIndex r root fun s =>
      match c.build s root false r with
      | .error e => ⟨.indexError, r.indexError e.message, s.abort⟩
      | .ok (s, count, r) =>
        let r := c.unlessQuiet r (·.info ("Indexed " ++ toString count ++ " files, watching " ++
          root.toText ++ " (Ctrl+C to stop)"))
        match ticks.foldlM c.tick ⟨.start root, s, r⟩ with
        | .error (fault, s) => ⟨.indexError, s.report.indexError fault.message, s.index.abort⟩
        | .ok s => ⟨.success, c.unlessQuiet s.report (·.info "Stopped watching"), s.index.close⟩

end TagSearch.CommandContext
