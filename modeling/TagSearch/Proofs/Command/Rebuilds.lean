import TagSearch.Proofs.Catalog.Transactions
import TagSearch.Proofs.Command.Limits
import TagSearch.Proofs.Disk.Inside

/-!
# Searches that build the index

A search builds the index first if that is asked for, or if the index was never built. Building
commits, so that nothing is lost however the search ends. So the search leaves the same index and
prints the same paths as one that follows a command that builds the index, provided that the index
is found again: a link in the place of the journal or the log of a new index goes when it is opened.

* `IndexSession.built`: a session that took over a scan.
* `IndexSession.Lasts`: while a session lasts, the directory and its index are found.
* `Host.Builds.run_eq` and `Host.Reads.run_rebuild`: what a search that builds the index and the
  command that builds it come down to.
* `Host.search_builds_as_rebuild`: both ways come to the same.
* `Host.rebuilt_index_can_be_lost`: an index that is not found again.
-/

namespace TagSearch

variable {h : Host} {ticks : List (List DiskEvent)} {capacity : Nat}

/-! ## Building an index -/

namespace IndexSession

variable {s : IndexSession} {root : PathText} {found : List String}

/-- The tables of a session that takes over a scan. -/
def rescanned (s : IndexSession) (root : PathText) (found : List String) : Catalog :=
  Session.scanned s.session.catalog root.toText found false

/-- A session that took over a scan. -/
def built (s : IndexSession) (root : PathText) (found : List String) : IndexSession :=
  { s with session := (s.session.build root.toText found false).1 }

/-- **What was built is committed**: it is left whichever way the session ends. -/
theorem close_built : (s.built root found).close = s.leave (s.rescanned root found).stored := rfl

theorem abort_built : (s.built root found).abort = s.leave (s.rescanned root found).stored := rfl

end IndexSession

namespace CommandContext

variable {c : CommandContext} {s : IndexSession} {root : PathText} {found : List String}

/-- What a command reports while it builds an index. -/
def progress (c : CommandContext) (s : IndexSession) (root : PathText) (found : List String)
    (r : Report) : Report :=
  c.tell (c.tell r [.scanning root.toText]) (s.session.catalog.scanNotices found false)

/-- What a search reports while it builds an index. -/
def searchProgress (c : CommandContext) (s : IndexSession) (root : PathText) (found : List String)
    (r : Report) : Report :=
  (c.progress s root found (r.info "Building index...")).info
    ("Index built with " ++ toString (s.rescanned root found).presentCount ++ " files")

theorem build_of_scan (scan : s.host.disk.scanPaths s.host.cwd root = .ok found) (r : Report) :
    c.build s root false r =
      .ok (s.built root found, (s.rescanned root found).presentCount,
        c.progress s root found r) := by
  rw [build, scan]
  rfl

/-- An index is built if that is asked for or it never was. -/
theorem refresh_of_builds {rescan : Bool}
    (builds : rescan = true ∨ s.session.catalog.state = none)
    (scan : s.host.disk.scanPaths s.host.cwd root = .ok found) (r : Report) :
    c.refresh s root rescan r = .ok (s.built root found, c.searchProgress s root found r) := by
  have asked : (rescan || s.session.catalog.state.isNone) = true := by
    rcases builds with rfl | none
    · rfl
    · rw [none, Bool.or_comm]
      rfl
  rw [refresh, asked, if_pos rfl, build_of_scan scan]
  rfl

/-- Notices come behind what was printed before. -/
theorem exists_out_tell (c : CommandContext) (notices : List Notice) :
    ∃ text, ∀ r, (c.tell r notices).out = r.out ++ text := by
  let line (notice : Notice) : String :=
    if notice.isDetail then "" else if c.verbose then (Report.empty.info notice.text).out else ""
  refine ⟨String.join (notices.map line), fun r => ?_⟩
  rw [tell, Report.tell]
  refine Report.out_addAll (fun r notice => ?_) notices r
  dsimp only [line]
  split
  · split <;> exact String.append_empty.symm
  · split
    · exact congrArg (r.out ++ ·) String.empty_append.symm
    · exact String.append_empty.symm

theorem out_searchProgress (c : CommandContext) (s : IndexSession) (root : PathText)
    (found : List String) (r : Report) :
    (c.searchProgress s root found r).out =
      r.out ++ (c.searchProgress s root found .empty).out := by
  obtain ⟨first, told⟩ := c.exists_out_tell [.scanning root.toText]
  obtain ⟨second, told'⟩ := c.exists_out_tell (s.session.catalog.scanNotices found false)
  simp only [searchProgress, progress, Report.info, Report.say, Report.write, told, told',
    Report.empty, String.empty_append, String.append_assoc]

end CommandContext

/-! ## Results -/

namespace IndexSession

variable {s : IndexSession} {q : SearchRequest} {e : Expr} {m : PathMatch} {r : Report}

/-- If nothing is pending, it does not matter for the index how a search ends. -/
theorem host_found (same : s.abort = s.close) (result : Except SearchError (List FileRecord)) :
    (s.found capacity q e m r result).host = s.close := by
  cases result with
  | error fault => exact same
  | ok files =>
    cases files with
    | nil => rfl
    | cons f files =>
      rw [found]
      · split
        · rfl
        · exact same
      · exact List.cons_ne_nil f files

end IndexSession

/-! ## Sessions in which the index is found again -/

/-- While a session lasts, the directory is found, and the path of its index leads to it. -/
structure IndexSession.Lasts (s : IndexSession) (root : PathText) : Prop where
  dir : ∃ entries, s.host.disk.find? s.host.cwd root = .ok (some (.dir entries))
  place : s.host.indexPlace? root = some s.place

variable {root : PathText} {s : IndexSession}

/-- A directory is found where it was if directories and links are the same. -/
theorem find?_of_sameFrame {disk disk' : Node Content} (frame : disk.SameFrame disk') {cwd : Place}
    (found : ∃ entries, disk.find? cwd root = .ok (some (.dir entries))) :
    ∃ entries, disk'.find? cwd root = .ok (some (.dir entries)) := by
  obtain ⟨entries, found⟩ := found
  obtain ⟨place, led, there⟩ := Node.stat_eq_ok_iff.1 (Node.find?_eq_some_iff.1 found)
  have dir : disk.kind? place = some true := by
    rw [Node.kind?, there]
    rfl
  obtain ⟨entries', there'⟩ := Node.exists_of_isDir ((frame.dirs place).1 dir)
  exact ⟨entries', Node.find?_eq_some_iff.2
    (Node.stat_eq_ok_iff.2 ⟨place, frame.grows.follow led, there'⟩)⟩

/-- Sessions on an index that exists last. -/
theorem IndexSession.IsOn.lasts (on : s.IsOn h root) (proper : h.disk.Proper)
    (found : ∃ entries, h.disk.find? h.cwd root = .ok (some (.dir entries))) : s.Lasts root := by
  refine ⟨?_, (Host.indexPlace?_of_sameFrame on.frame proper on.cwd root).trans on.place⟩
  rw [on.cwd]
  exact find?_of_sameFrame on.frame found

/-- Sessions on a new index last if no link stands in the place of a companion. -/
theorem Host.lasts_of_new (sound : h.disk.Sound) (top : h.disk.kind? [] = some true)
    (named : ∀ name ∈ root.parts, Node.IsName name)
    (found : ∃ entries, h.disk.find? h.cwd root = .ok (some (.dir entries)))
    (opened : h.tryOpen root = .ok s)
    (plain : ∀ (c : Companion) t, h.disk.get? (c.place s.place) ≠ some (.link t)) :
    s.Lasts root := by
  obtain ⟨r, session, isNew, way, fits, noDir, entered, -⟩ := tryOpen_eq_ok opened
  obtain ⟨passed, disk, put, rfl⟩ := enter_eq_ok entered
  have arrives := resolved_indexFile sound top named
  rw [way] at arrives
  have written : h.disk.SameFrame disk :=
    .put put ⟨noDir, arrives.2 r.place List.prefix_rfl⟩ arrives.1
  have there := Node.get?_put_self put
  obtain ⟨ne, -, -, dir⟩ := place_of_index (written.proper sound.proper)
    ((written.dirs []).1 top) there
  have free (c : Companion) : disk.IsFree (c.place r.place) :=
    written.isFree ⟨Companion.kind?_of_not_blocks (passed c), plain c⟩
  have names (c : Companion) := Companion.isName_of_mem_place arrives.1 ne c
  obtain ⟨kept, logged, stays, put, put'⟩ := exists_withCompanions (h := { h with disk }) dir isNew
  have emptied : disk.SameFrame kept := by
    rcases stays with ⟨rfl, -⟩ | rfl
    · exact .refl _
    · exact .erase (Companion.place_ne_nil _ _) (free .journal)
  have first := emptied.trans (.put put (emptied.isFree (free .log)) (names .log))
  have second := first.trans (.put put' (first.isFree (free .memory)) (names .memory))
  have frame := written.trans second
  refine ⟨find?_of_sameFrame frame found, ?_⟩
  refine (indexPlace?_of_sameFrame frame sound.proper rfl root).trans ?_
  rw [indexPlace?, way]

/-- A directory that is found is scanned. -/
theorem exists_scanPaths {disk : Node Content} {cwd : Place}
    (found : ∃ entries, disk.find? cwd root = .ok (some (.dir entries))) :
    ∃ paths, disk.scanPaths cwd root = .ok paths := by
  obtain ⟨entries, found⟩ := found
  rw [Node.scanPaths, Node.scanRoot, found]
  exact ⟨_, rfl⟩

/-! ## Calls -/

/-- A call that builds the index under the settings of another call, and drops no file. Its messages
are free of brackets; it reports the name of the directory unless it is quiet. -/
structure CommandCall.Rebuilds (p q : CommandCall) : Prop where
  command : p.command = .rebuildIndex
  settings : p.settings = q.settings
  unpruned : OptionUse.isOn p.uses "prune" = false
  messages : p.IsBracketFree
  progress : p.isQuiet = false ∨ p.isVerbose = true →
    isBracketFree p.settings.root.toText = true

/-- A call that repeats the search of another one, except that it does not ask for a scan. Its
messages are free of brackets. -/
structure CommandCall.Repeats (p q : CommandCall) : Prop where
  command : p.command = .search
  settings : p.settings = q.settings
  request : p.request = { q.request with rescan := false }
  messages : p.IsBracketFree

namespace Host

variable {once rebuild again : List String} {p q q' : CommandCall} {e : Expr}

/-- The directory of settings that were loaded has names that entries can have. -/
theorem isName_of_settingsFor (sound : h.Sound) {uses : List OptionUse} {s : Settings}
    {w : List SettingsWarning} (loaded : h.settingsFor uses = .ok (s, w)) :
    ∀ name ∈ s.root.parts, Node.IsName name := by
  obtain ⟨_, _, _, load, same⟩ := exists_load_of_settingsFor loaded
  rcases same with rfl | ⟨dir, root, resolved, rfl⟩
  · obtain ⟨_, _, _, read, checked, _⟩ := Settings.load_eq_ok_iff.1 load
    obtain ⟨_, _, resolved, _, rfl, _⟩ := Settings.check_eq_ok_iff.1 checked
    exact (sound.isName_of_resolve (Settings.isPart_of_read sound read) resolved).2
  · exact (sound.isName_of_resolve (fun _ mem => PathText.isPart_of_mem_ofText mem) resolved).2

/-! ## The command lines -/

/-- A command line searches a directory for paths, and builds its index first. Its messages are free
of brackets; it reports the name of the directory if it is verbose. -/
structure Builds (h : Host) (arguments : List String) (q : CommandCall) (e : Expr)
    (s : IndexSession) : Prop where
  read : h.Reads arguments q
  search : q.command = .search
  paths : q.request.format = .paths
  root : ∃ entries, h.disk.find? h.cwd q.settings.root = .ok (some (.dir entries))
  parsed : parse q.request.query = .ok e
  opened : h.openIndex q.settings.root = .ok s
  builds : q.request.rescan = true ∨ s.session.catalog.state = none
  messages : q.IsBracketFree
  progress : q.isVerbose = true → isBracketFree q.settings.root.toText = true

/-- **A search that builds the index** runs to the result of its query on what was built. -/
theorem Builds.run_eq (builds : h.Builds once q e s) {found : List String}
    (scan : s.host.disk.scanPaths s.host.cwd q.settings.root = .ok found)
    (ticks : List (List DiskEvent)) (capacity : Nat) :
    let c := s.rescanned q.settings.root found
    let progress := ((q.context h capacity).searchProgress s q.settings.root found .empty).out
    ∃ r, r.out = q.request.explanation e q.pathMatch ++ progress ∧
      h.run once ticks capacity =
        (s.built q.settings.root found).found capacity q.request e q.pathMatch r
          (c.search e q.pathMatch q.limit) := by
  obtain ⟨read, search, paths, root, parsed, opened, built, -, -⟩ := builds
  obtain ⟨r, out, run⟩ := read.run_search search root parsed ticks capacity
  obtain ⟨r', out', result⟩ := CommandContext.exists_searchIndex
    (CommandContext.refresh_of_builds (c := q.context h capacity) built scan r) e q.pathMatch
  refine ⟨r', ?_, ?_⟩
  · rw [out', CommandContext.out_searchProgress, out]
  · rw [run, CommandContext.withIndex_of_openIndex (c := q.context h capacity) opened, result,
      ← read.limit_eq search]
    rfl

/-- **The command that builds the index** leaves what was built. -/
theorem Reads.run_rebuild (read : h.Reads rebuild p) (command : p.command = .rebuildIndex)
    (unpruned : OptionUse.isOn p.uses "prune" = false)
    (root : ∃ entries, h.disk.find? h.cwd p.settings.root = .ok (some (.dir entries)))
    (opened : h.openIndex p.settings.root = .ok s) {found : List String}
    (scan : s.host.disk.scanPaths s.host.cwd p.settings.root = .ok found)
    (ticks : List (List DiskEvent)) (capacity : Nat) :
    (h.run rebuild ticks capacity).code = .success ∧
    (h.run rebuild ticks capacity).host =
      s.leave (s.rescanned p.settings.root found).stored := by
  let c := p.context h capacity
  have run : h.run rebuild ticks capacity = c.rebuildIndex false p.preface := by
    rw [run_of_reads read, command, ← unpruned]
    rfl
  have opened : c.host.openIndex c.settings.root = .ok s := opened
  have scan : s.host.disk.scanPaths s.host.cwd c.settings.root = .ok found := scan
  rw [run, CommandContext.rebuildIndex, CommandContext.withRoot_of_find? (c := c) root,
    CommandContext.withIndex_of_openIndex opened]
  dsimp only
  rw [CommandContext.build_of_scan scan]
  exact ⟨rfl, rfl⟩

/-- Such a search matches paths alike, and is limited alike. -/
theorem limit_of_repeats {h' : Host} (read : h.Reads once q) (search : q.command = .search)
    (read' : h'.Reads again q') (repeats : q'.Repeats q) :
    q'.pathMatch = q.pathMatch ∧ q'.limit = q.limit := by
  constructor
  · rw [CommandCall.pathMatch, repeats.request, repeats.settings]
    rfl
  · rw [← read'.limit_eq repeats.command, ← read.limit_eq search, repeats.request,
      repeats.settings]

/-- What is built on a session that was entered is stored and opened without a change. -/
theorem ordered_rescanned (start : s.session = .fresh ∨ ∃ index, s.session = .start index)
    (found : List String) : (s.rescanned root found).Ordered := by
  have old : s.session.catalog.Ordered := by
    rcases start with session | ⟨index, session⟩
    · rw [session]
      exact List.Pairwise.nil
    · rw [session]
      exact Catalog.ordered_open index
  exact old.effect (.build root.toText found false)

/-- **A search that follows the command that builds the index.** The index is opened as it was
built, and left so. -/
theorem run_repeated (ready : s.Ready) (lasts : s.Lasts root) {c : Catalog} (ordered : c.Ordered)
    (scanned : c.state.isSome = true) (read : (s.leave c.stored).Reads again q')
    (search : q'.command = .search) (kept : q'.request.rescan = false)
    (settings : q'.settings.root = root) (parsed : parse q'.request.query = .ok e)
    (messages : q'.IsBracketFree) (ticks : List (List DiskEvent)) (capacity : Nat) :
    ((s.leave c.stored).run again ticks capacity).host.storedIndex? root = some c.stored ∧
    ∃ s' r, r.out = q'.request.explanation e q'.pathMatch ∧
      (s.leave c.stored).run again ticks capacity =
        IndexSession.found s' capacity q'.request e q'.pathMatch r
          (c.search e q'.pathMatch q'.limit) := by
  subst settings
  obtain ⟨s', opened, session⟩ := ready.exists_openIndex lasts.place c.stored
  have frame := (ready.leave c.stored).1.frame
  have proper := frame.proper ready.proper
  have stored := ready.storedIndex?_leave lasts.place c.stored
  have on := (of_openIndex proper ((frame.dirs []).1 ready.top) stored opened).2
  have same : s'.session.catalog = c := by
    rw [session]
    exact Catalog.open_stored ordered
  have searches : (s.leave c.stored).Searches again q' e s' :=
    { read, search, kept, parsed, opened, messages
      root := find?_of_sameFrame frame lasts.dir
      built := by rw [same, scanned] }
  obtain ⟨r, out, run⟩ := searches.run_eq ticks capacity
  have closed : s'.close = s'.leave c.stored := by
    rw [IndexSession.close, Session.close, same]
  have aborted : s'.abort = s'.leave c.stored := by
    rw [IndexSession.abort, session]
    exact congrArg (fun c => s'.leave c.stored) (Catalog.open_stored ordered)
  rw [same] at run
  refine ⟨?_, s', r, out, run⟩
  rw [run, IndexSession.host_found (aborted.trans closed.symm), closed]
  exact (on.storedIndex?_leave proper c.stored).1

/-- The session of a search that builds an index lasts if it does on a new index. -/
theorem Builds.lasts (builds : h.Builds once q e s) (sound : h.Sound)
    (new : h.storedIndex? q.settings.root = none → s.Lasts q.settings.root) :
    s.Lasts q.settings.root := by
  have top : h.disk.kind? [] = some true := Node.kind?_of_isPrefix sound.cwd List.nil_prefix
  cases stored : h.storedIndex? q.settings.root with
  | none => exact new stored
  | some index =>
    obtain ⟨_, on⟩ := of_openIndex sound.disk.proper top stored builds.opened
    exact on.lasts sound.disk.proper builds.root

/-- **A search that builds the index comes to the same as building it first.** For every directory,
every query that parses, every way of matching paths and every limit: if the index has no state or a
scan is asked for, the search leaves the host that the command leaves that builds the index. When
the same search follows, without the scan, the tables stay as they are. Both searches end with the
same code and print the same lines, which are the paths found, or a remark that there are none, or
nothing if the limit is too large or the files are beyond the capacity; what the first one prints
more is the report on the scan. This needs that a new index is found again when it was opened. -/
theorem search_builds_as_rebuild (sound : h.Sound) (builds : h.Builds once q e s)
    (lasts : h.storedIndex? q.settings.root = none → s.Lasts q.settings.root)
    (read : h.Reads rebuild p) (rebuilds : p.Rebuilds q)
    (read' : (h.run rebuild ticks capacity).host.Reads again q') (repeats : q'.Repeats q) :
    ∃ found, s.host.disk.scanPaths s.host.cwd q.settings.root = .ok found ∧
      let root := q.settings.root
      let c := s.rescanned root found
      let first := h.run once ticks capacity
      let prepared := (h.run rebuild ticks capacity).host
      let second := prepared.run again ticks capacity
      let answer := q.request.answer capacity e q.pathMatch (c.search e q.pathMatch q.limit)
      let explanation := q.request.explanation e q.pathMatch
      let progress := ((q.context h capacity).searchProgress s root found .empty).out
      ((h.run rebuild ticks capacity).code = .success ∧ first.host = prepared) ∧
      (prepared.storedIndex? root = some c.stored ∧
        second.host.storedIndex? root = some c.stored) ∧
      (first.code = answer.1 ∧ second.code = answer.1) ∧
      first.report.out = explanation ++ progress ++ answer.2 ∧
      second.report.out = explanation ++ answer.2 := by
  have top : h.disk.kind? [] = some true := Node.kind?_of_isPrefix sound.cwd List.nil_prefix
  have named := isName_of_settingsFor sound builds.read.settings
  obtain ⟨ready, -, start⟩ := ready_of_openIndex sound.disk top named builds.opened
  have lasts := builds.lasts sound lasts
  obtain ⟨found, scan⟩ := exists_scanPaths lasts.dir
  refine ⟨found, scan, ?_⟩
  intro root c first prepared second answer explanation progress
  have ordered : c.Ordered := ordered_rescanned start found
  -- The command that builds the index leaves what was scanned.
  have rebuilt : (h.run rebuild ticks capacity).code = .success ∧
      (h.run rebuild ticks capacity).host = s.leave c.stored := by
    obtain ⟨command, settings, unpruned, -, -⟩ := rebuilds
    have same : root = p.settings.root := congrArg Settings.root settings.symm
    have root' := builds.root
    have opened := builds.opened
    rw [← settings] at root' opened scan
    have := read.run_rebuild command unpruned root' opened scan ticks capacity
    rwa [← same] at this
  -- So does the search that builds it.
  obtain ⟨r, out, run⟩ := builds.run_eq scan ticks capacity
  obtain ⟨ended, printed⟩ := (s.built root found).found_eq_answer capacity builds.paths e
    q.pathMatch r (c.search e q.pathMatch q.limit)
  have run : first = _ := run
  have left : first.host = s.leave c.stored := by
    rw [run, IndexSession.host_found (IndexSession.abort_built.trans IndexSession.close_built.symm)]
    exact IndexSession.close_built
  -- The search that follows opens this index.
  have same : prepared = s.leave c.stored := rebuilt.2
  rw [rebuilt.2] at read'
  obtain ⟨pathMatch, limit⟩ := limit_of_repeats builds.read builds.search read' repeats
  have kept : q'.request.rescan = false := by rw [repeats.request]
  have parsed : parse q'.request.query = .ok e := by
    rw [repeats.request]
    exact builds.parsed
  obtain ⟨stored, s', r', out', run'⟩ := run_repeated ready lasts ordered rfl read'
    repeats.command kept (congrArg Settings.root repeats.settings) parsed repeats.messages ticks
    capacity
  rw [pathMatch, repeats.request] at out'
  rw [pathMatch, limit, repeats.request] at run'
  obtain ⟨ended', printed'⟩ := IndexSession.found_eq_answer
    (q := { q.request with rescan := false }) s' capacity builds.paths e q.pathMatch r'
    (c.search e q.pathMatch q.limit)
  have follows : second = (s.leave c.stored).run again ticks capacity :=
    congrArg (·.run again ticks capacity) same
  refine ⟨⟨rebuilt.1, left.trans same.symm⟩, ⟨?_, follows ▸ stored⟩, ?_⟩
  · rw [same]
    exact ready.storedIndex?_leave lasts.place _
  · rw [follows, run, run', printed, printed', out, out']
    exact ⟨⟨ended, ended'⟩, rfl, rfl⟩

/-! ### A new index -/

/-- A command line that searches for a file. -/
def pathsLine : List String := ["-c", "c", "-R", "r", "search", "-f", "paths", "inpath:a"]

/-- What it calls. -/
def pathsCall : CommandCall := taggedCall .search [⟨"format", "paths", true⟩] ["inpath:a"]

/-- A command line that builds the index. -/
def rebuildLine : List String := ["-c", "c", "-R", "r", "rebuild-index"]

/-- What it calls. -/
def rebuildCall : CommandCall := taggedCall .rebuildIndex [] []

theorem isBracketFree_pathsCall : pathsCall.IsBracketFree := isBracketFree_taggedCall (by decide)

theorem rebuilds_rebuildCall : rebuildCall.Rebuilds pathsCall :=
  ⟨rfl, rfl, rfl, isBracketFree_taggedCall (by decide), fun _ => by decide⟩

theorem repeats_pathsCall : pathsCall.Repeats pathsCall :=
  ⟨rfl, rfl, rfl, isBracketFree_pathsCall⟩

/-- The command lines and the query as they are read. -/
theorem readArguments_lines :
    CommandPath.program.spec.readArguments pathsLine =
        .ok (taggedGlobals, ["search", "-f", "paths", "inpath:a"]) ∧
      CommandPath.search.spec.readArguments ["-f", "paths", "inpath:a"] =
        .ok (pathsCall.uses, pathsCall.operands) ∧
      CommandPath.program.spec.readArguments rebuildLine =
        .ok (taggedGlobals, ["rebuild-index"]) ∧
      CommandPath.rebuildIndex.spec.readArguments [] =
        .ok (rebuildCall.uses, rebuildCall.operands) ∧
      parse "inpath:a" = .ok (.term (.inPath "a")) := by
  decide +kernel

theorem parse_pathsCall : parse pathsCall.request.query = .ok (.term (.inPath "a")) := by
  have query : pathsCall.request.query = "inpath:a" := by cbv
  rw [query]
  exact readArguments_lines.2.2.2.2

/-- A host with a directory of some entries. -/
def dirHost (entries : List (String × Node Content)) : Host :=
  Settings.topHost [("r", .dir entries)]

section

variable (entries : List (String × Node Content))

theorem find?_dirHost :
    ∃ es, (dirHost entries).disk.find? [] ⟨.top, ["r"]⟩ = .ok (some (.dir es)) :=
  ⟨entries, by cbv⟩

theorem settingsFor_dirHost : (dirHost entries).settingsFor taggedGlobals =
    .ok (taggedSettings, [.noFile ⟨.top, ["c"]⟩]) := by cbv

theorem accept_dirHost {arguments rest : List String} {name : String}
    (read : CommandPath.program.spec.readArguments arguments = .ok (taggedGlobals, name :: rest)) :
    CommandPath.program.spec.accept (dirHost entries) arguments =
      .ok (taggedGlobals, name :: rest) :=
  CommandSpec.accept_eq_ok_iff.2 ⟨read, by cbv, by cbv⟩

theorem reads_pathsCall : (dirHost entries).Reads pathsLine pathsCall := by
  obtain ⟨before, behind, -⟩ := readArguments_lines
  have accepted : CommandPath.search.spec.accept (dirHost entries) ["-f", "paths", "inpath:a"] =
      .ok (pathsCall.uses, pathsCall.operands) :=
    CommandSpec.accept_eq_ok_iff.2 ⟨behind, by cbv, by cbv⟩
  exact ⟨settingsFor_dirHost entries, "search", _, .search, accept_dirHost entries before, by cbv,
    .plain rfl accepted⟩

theorem reads_rebuildCall : (dirHost entries).Reads rebuildLine rebuildCall := by
  obtain ⟨-, -, before, behind, -⟩ := readArguments_lines
  have accepted : CommandPath.rebuildIndex.spec.accept (dirHost entries) [] =
      .ok (rebuildCall.uses, rebuildCall.operands) :=
    CommandSpec.accept_eq_ok_iff.2 ⟨behind, rfl, by cbv⟩
  exact ⟨settingsFor_dirHost entries, "rebuild-index", _, .rebuildIndex,
    accept_dirHost entries before, by cbv, .plain rfl accepted⟩

end

/-- A search in a directory that has no index builds it. -/
theorem builds_pathsCall {entries : List (String × Node Content)}
    (opened : (dirHost entries).tryOpen ⟨.top, ["r"]⟩ = .ok s) (fresh : s.session = .fresh) :
    (dirHost entries).Builds pathsLine pathsCall (.term (.inPath "a")) s where
  read := reads_pathsCall entries
  search := rfl
  paths := rfl
  root := find?_dirHost entries
  parsed := parse_pathsCall
  opened := by
    show (dirHost entries).openIndex ⟨.top, ["r"]⟩ = .ok s
    rw [openIndex, opened]
  builds := Or.inr (by rw [fresh]; rfl)
  messages := isBracketFree_pathsCall
  progress _ := by decide

/-- A directory with one file. -/
def plainHost : Host := dirHost [("a", .file (.text ""))]

/-- What lies in it when it has an index. -/
def plainEntries (index : StoredIndex) : List (String × Node Content) :=
  [("a", .file (.text "")), (".tag-commander.db", .file (.index index))]

/-- The session on its index when that is new. -/
def plainSession : IndexSession :=
  ⟨.fresh, ["r", ".tag-commander.db"], dirHost (plainEntries Session.fresh.close ++
    [(".tag-commander.db-wal", .file (.text "")), (".tag-commander.db-shm", .file (.text ""))])⟩

theorem links_plainHost : plainHost.disk.links = [] := by cbv

theorem proper_plainHost : plainHost.disk.Proper := by
  simp [plainHost, dirHost, Settings.topHost, Node.proper_dir_iff, Node.IsName]

theorem sound_plainHost : plainHost.Sound :=
  ⟨Node.sound_of_links_eq_nil proper_plainHost links_plainHost, by cbv⟩

theorem tryOpen_plainHost : plainHost.tryOpen ⟨.top, ["r"]⟩ = .ok plainSession := by
  have led : plainHost.indexPlace? ⟨.top, ["r"]⟩ = some ["r", ".tag-commander.db"] := by cbv
  have put : plainHost.disk.put ["r", ".tag-commander.db"] (.file (.index Session.fresh.close)) =
      some (dirHost (plainEntries Session.fresh.close)).disk := by cbv
  refine (tryOpen_of_none led (by cbv) (by cbv) (fun c => ?_) put).trans ?_
  · cases c <;> cbv
  · congr 2

theorem lasts_plainSession : plainSession.Lasts ⟨.top, ["r"]⟩ := by
  refine lasts_of_new sound_plainHost.disk rfl (by simp [Node.IsName]) (find?_dirHost _)
    tryOpen_plainHost fun c t => ?_
  exact Node.not_link_of_links_eq_nil proper_plainHost links_plainHost _ t

theorem scan_plainSession : plainSession.host.disk.scanPaths [] ⟨.top, ["r"]⟩ = .ok ["a"] := by cbv

theorem leave_plainSession (index : StoredIndex) :
    plainSession.leave index = dirHost (plainEntries index) := by cbv

theorem search_builds_as_rebuild_new :
    plainHost.Sound ∧
    plainHost.Builds pathsLine pathsCall (.term (.inPath "a")) plainSession ∧
    plainSession.Lasts pathsCall.settings.root ∧
    plainHost.Reads rebuildLine rebuildCall ∧ rebuildCall.Rebuilds pathsCall ∧
    (plainHost.run rebuildLine []).host.Reads pathsLine pathsCall ∧ pathsCall.Repeats pathsCall ∧
    (plainHost.run pathsLine []).host = (plainHost.run rebuildLine []).host ∧
    ((plainHost.run rebuildLine []).host.run pathsLine []).report.out = "a\n" := by
  have builds := builds_pathsCall tryOpen_plainHost rfl
  have read := reads_rebuildCall [("a", .file (.text ""))]
  have host := (read.run_rebuild rfl rfl (find?_dirHost _) builds.opened scan_plainSession []
    usualCapacity).2
  rw [leave_plainSession] at host
  have read' : (plainHost.run rebuildLine []).host.Reads pathsLine pathsCall := by
    rw [show (plainHost.run rebuildLine []).host = _ from host]
    exact reads_pathsCall _
  obtain ⟨found, scan, same⟩ := search_builds_as_rebuild sound_plainHost builds
    (fun _ => lasts_plainSession) read rebuilds_rebuildCall read' repeats_pathsCall
  obtain rfl := Except.ok.inj (scan.symm.trans scan_plainSession)
  obtain ⟨⟨_, hosts⟩, _, _, _, out⟩ := same
  refine ⟨sound_plainHost, builds, lasts_plainSession, read, rebuilds_rebuildCall, read',
    repeats_pathsCall, hosts, out.trans ?_⟩
  cbv

/-! ### An index that is lost -/

/-- The index of a directory lies where the names of its path lead. -/
theorem indexPlace?_of_leads {count : Nat} {names : List String} {place : Place}
    (proper : h.disk.Proper) (parts : (indexFile root).parts = names)
    (leads : h.disk.Leads count [] names place) : h.indexPlace? root = some place := by
  rw [indexPlace?, parts, show Route.top = ⟨[], none⟩ from rfl,
    leads.resolveFrom (Node.spare_linkRoutes proper h.cwd count)]

/-- The name of the index in a directory is a link, which leads to a place. -/
structure IsLinked (entries : List (String × Node Content)) (count : Nat) (place : Place) : Prop where
  proper : (dirHost entries).disk.Proper
  link : (dirHost entries).disk.get? ["r", ".tag-commander.db"] = some (.link "q-wal/q")
  leads : (dirHost entries).disk.Leads count ["r"] ["q-wal", "q"] place

/-- If the name of the index is a link, the index lies where the link leads. -/
theorem IsLinked.indexPlace?_eq {entries : List (String × Node Content)} {count : Nat}
    {place : Place} (linked : IsLinked entries count place) :
    (dirHost entries).indexPlace? ⟨.top, ["r"]⟩ = some place := by
  have parts : (indexFile ⟨.top, ["r"]⟩).parts = ["r", ".tag-commander.db"] := by cbv
  have dir (t : String) : (dirHost entries).disk.get? ["r"] ≠ some (.link t) := by rintro ⟨⟩
  have through : (dirHost entries).disk.Leads (count + 0 + 1) ["r"] [".tag-commander.db"] place :=
    .link (by simp [Node.IsName]) linked.link linked.leads (.done _)
  exact indexPlace?_of_leads linked.proper parts (.down (by simp [Node.IsName]) dir through)

/-- What lies in a directory whose index is named through a link, besides that link. -/
def lostEntries : List (String × Node Content) :=
  [("a", .file (.text "")), ("q-wal", .link "."), (".tag-commander.db", .link "q-wal/q")]

/-- A directory whose index lies behind a link in the place of its own log. -/
def lostHost : Host := dirHost lostEntries

theorem links_lostHost :
    lostHost.disk.links = [["r", "q-wal"], ["r", ".tag-commander.db"]] := by cbv

theorem sound_lostHost : lostHost.Sound := by
  refine ⟨Node.sound_of_links (by simp [lostEntries, Node.proper_dir_iff, Node.IsName]) ?_, by cbv⟩
  intro p mem t link
  have target : lostHost.disk.get? p = some (.link t) := link
  have place : p ∈ [["r", "q-wal"], ["r", ".tag-commander.db"]] := links_lostHost ▸ mem
  rcases List.mem_cons.1 place with rfl | place
  · cases target
    decide
  · obtain rfl := List.mem_singleton.1 place
    cases target
    decide

/-- The link in the place of the log leads to the directory, and so is replaced by a file. -/
theorem not_blocks_lostHost (c : Companion) : c.blocks lostHost.disk ["r", "q"] true = false := by
  cases c with
  | journal => cbv
  | memory => cbv
  | log =>
    have link : lostHost.disk.get? (Companion.log.place ["r", "q"]) = some (.link ".") := by cbv
    obtain ⟨es, leads⟩ : ∃ es, lostHost.disk.stat []
        (PathText.ofPlace (Companion.log.place ["r", "q"])).toText = .ok (.dir es) := ⟨_, by cbv⟩
    rw [Companion.blocks, link]
    dsimp only
    rw [leads]
    rfl

/-- The link in the place of the log leads the index back into the directory. -/
theorem indexPlace?_lostHost : lostHost.indexPlace? ⟨.top, ["r"]⟩ = some ["r", "q"] := by
  have link : lostHost.disk.get? ["r", "q-wal"] = some (.link ".") := by cbv
  have new (t : String) : lostHost.disk.get? ["r", "q"] ≠ some (.link t) := by rintro ⟨⟩
  have back : lostHost.disk.Leads 0 ["r"] ["."] ["r"] := .stay (Or.inr rfl) (.done _)
  have last : lostHost.disk.Leads 0 ["r"] ["q"] ["r", "q"] :=
    .down (by simp [Node.IsName]) new (.done _)
  have linked : IsLinked lostEntries 1 ["r", "q"] :=
    ⟨sound_lostHost.disk.proper, by cbv, .link (by simp [Node.IsName]) link back last⟩
  exact linked.indexPlace?_eq

/-- The session on its index when that is new. -/
def lostSession : IndexSession :=
  ⟨.fresh, ["r", "q"], dirHost [("a", .file (.text "")), ("q-wal", .file (.text "")),
    (".tag-commander.db", .link "q-wal/q"), ("q", .file (.index Session.fresh.close)),
    ("q-shm", .file (.text ""))]⟩

theorem tryOpen_lostHost : lostHost.tryOpen ⟨.top, ["r"]⟩ = .ok lostSession := by
  have led := indexPlace?_lostHost
  let entered := dirHost [("a", .file (.text "")), ("q-wal", .link "."),
    (".tag-commander.db", .link "q-wal/q"), ("q", .file (.index Session.fresh.close))]
  have put : lostHost.disk.put ["r", "q"] (.file (.index Session.fresh.close)) =
      some entered.disk := by cbv
  have companions : entered.withCompanions ["r", "q"] true = lostSession.host := by cbv
  rw [tryOpen_of_none led (by cbv) (by cbv) not_blocks_lostHost put]
  exact congrArg (fun h => Except.ok (IndexSession.mk .fresh ["r", "q"] h)) companions

theorem scan_lostSession : lostSession.host.disk.scanPaths [] ⟨.top, ["r"]⟩ =
    .ok ["a", "q-wal", "q", "q-shm"] := by cbv

/-- What lies in it besides the link in the place of the log when it has an index. -/
def strandedEntries (index : StoredIndex) : List (String × Node Content) :=
  [("a", .file (.text "")), (".tag-commander.db", .link "q-wal/q"), ("q", .file (.index index))]

theorem leave_lostSession (index : StoredIndex) :
    lostSession.leave index = dirHost (strandedEntries index) := by cbv

/-- The index cannot be opened again: its path leads through a link that is gone. -/
theorem openIndex_strandedEntries (index : StoredIndex) :
    (dirHost (strandedEntries index)).openIndex ⟨.top, ["r"]⟩ = .error ⟨⟨.top, ["r"]⟩⟩ := by
  have proper : (dirHost (strandedEntries index)).disk.Proper := by
    simp [dirHost, strandedEntries, Settings.topHost, Node.proper_dir_iff, Node.IsName,
      Node.proper_file, Node.proper_link]
  have gone (t : String) :
      (dirHost (strandedEntries index)).disk.get? ["r", "q-wal"] ≠ some (.link t) := by
    rintro ⟨⟩
  have below (t : String) :
      (dirHost (strandedEntries index)).disk.get? ["r", "q-wal", "q"] ≠ some (.link t) := by
    rintro ⟨⟩
  have through : (dirHost (strandedEntries index)).disk.Leads 0 ["r"] ["q-wal", "q"]
      ["r", "q-wal", "q"] :=
    .down (by simp [Node.IsName]) gone (.down (by simp [Node.IsName]) below (.done _))
  have linked : IsLinked (strandedEntries index) 0 ["r", "q-wal", "q"] :=
    ⟨proper, by cbv, through⟩
  exact openIndex_of_closed linked.indexPlace?_eq (by cbv) fun n => by cbv

/-- **An index that was built can be lost.** A search that builds the index finds the file. If the
index is built before, the same search does not find it again, and fails. -/
theorem rebuilt_index_can_be_lost :
    let prepared := (lostHost.run rebuildLine []).host
    (lostHost.Sound ∧ lostHost.Builds pathsLine pathsCall (.term (.inPath "a")) lostSession ∧
      lostSession.session.catalog.state = none) ∧
    (lostHost.Reads rebuildLine rebuildCall ∧ rebuildCall.Rebuilds pathsCall ∧
      (lostHost.run rebuildLine []).code = .success) ∧
    (prepared.Reads pathsLine pathsCall ∧ pathsCall.Repeats pathsCall) ∧
    ((lostHost.run pathsLine []).code = .success ∧
      ∃ progress, (lostHost.run pathsLine []).report.out = progress ++ "a\n") ∧
    (prepared.run pathsLine []).code = .indexError ∧
    (prepared.run pathsLine []).report.out = "" := by
  intro prepared
  let found := ["a", "q-wal", "q", "q-shm"]
  let index := (lostSession.rescanned ⟨.top, ["r"]⟩ found).stored
  have builds := builds_pathsCall tryOpen_lostHost rfl
  have read := reads_rebuildCall lostEntries
  obtain ⟨code, host⟩ :=
    read.run_rebuild rfl rfl (find?_dirHost _) builds.opened scan_lostSession [] usualCapacity
  have same : prepared = dirHost (strandedEntries index) := host.trans (leave_lostSession _)
  have read' := reads_pathsCall (strandedEntries index)
  refine ⟨⟨sound_lostHost, builds, rfl⟩, ⟨read, rebuilds_rebuildCall, code⟩,
    ⟨same ▸ read', repeats_pathsCall⟩, ?_, ?_⟩
  · obtain ⟨r, _, run⟩ := builds.run_eq scan_lostSession [] usualCapacity
    have result : (lostSession.rescanned ⟨.top, ["r"]⟩ found).search (.term (.inPath "a"))
        pathsCall.pathMatch pathsCall.limit = .ok [⟨1, "a", true⟩] := by cbv
    obtain ⟨ended, printed⟩ := (lostSession.built ⟨.top, ["r"]⟩ found).found_eq_answer usualCapacity
      builds.paths (.term (.inPath "a")) pathsCall.pathMatch r (.ok [⟨1, "a", true⟩])
    rw [show lostHost.run pathsLine [] = _ from run]
    rw [show (lostSession.rescanned pathsCall.settings.root _).search _ _ _ = _ from result]
    refine ⟨ended, r.out, printed.trans (congrArg (r.out ++ ·) ?_)⟩
    cbv
  · obtain ⟨r, out, run⟩ := read'.run_search rfl (find?_dirHost _) parse_pathsCall [] usualCapacity
    have closed : (pathsCall.context (dirHost (strandedEntries index)) usualCapacity).host.openIndex
        pathsCall.settings.root = .error ⟨⟨.top, ["r"]⟩⟩ := openIndex_strandedEntries index
    rw [same, run, CommandContext.withIndex, closed]
    exact ⟨rfl, out⟩

end Host

end TagSearch
