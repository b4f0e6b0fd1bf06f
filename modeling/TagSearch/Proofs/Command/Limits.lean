import TagSearch.Proofs.Catalog.Counts
import TagSearch.Proofs.Command.Failures

/-!
# The limit of a search

The number of results may be limited on the command line or in the settings. Every limit that gets
through either is positive. A search prints the first paths, as many as the limit says, if the limit
fits into a signed number of 64 bits and these files are within the capacity; otherwise it fails
before it prints any path.

A path is printed without the sequences that would change the style of a terminal, and one with a
line feed takes two lines.

* `CommandCall.limit` is the limit of a call, `Host.one_le_limit`: it is positive.
* `Host.Searches`: a command line searches an index that was built.
* `Host.Searches.run_eq`: what such a run comes down to.
* `Host.search_prints_first`: what it prints.
* `Host.limit_can_be_too_large`: a limit that gets through and is too large.
-/

namespace TagSearch

variable {h : Host} {arguments : List String} {ticks : List (List DiskEvent)} {capacity : Nat}

/-! ## What is printed -/

/-- The line that is printed for a path. -/
def pathLine (path : String) : String := String.ofList (withoutStyles path.toList) ++ "\n"

/-- What a search prints about its query, if it is asked to. -/
def SearchRequest.explanation (q : SearchRequest) (e : Expr) (m : PathMatch) : String :=
  if q.explain then cleanText e.display ++ "\n" ++ (cleanText (Predicate.ofExpr m e).render ++ "\n")
  else ""

namespace Report

variable {α : Type} {r : Report}

/-- Lines that are added one by one. -/
theorem out_addAll {add : Report → α → Report} {line : α → String}
    (adds : ∀ r a, (add r a).out = r.out ++ line a) (items : List α) (r : Report) :
    (r.addAll add items).out = r.out ++ String.join (items.map line) := by
  rw [addAll]
  induction items generalizing r with
  | nil => simp
  | cons a items ih =>
    rw [List.foldl_cons, ih, adds, List.map_cons, String.join_cons, String.append_assoc]

/-- Warnings are no results. -/
theorem out_warnAll (text : α → String) (items : List α) (r : Report) :
    (r.addAll (fun r a => r.warn (text a)) items).out = r.out := by
  rw [addAll]
  induction items generalizing r with
  | nil => rfl
  | cons a items ih => exact ih (r.warn (text a))

/-- The paths found, line by line. -/
theorem out_found_paths (r : Report) (query : String) (files : List FoundFile) :
    (r.found .paths query files).out =
      r.out ++ String.join (files.map fun f => pathLine f.file.path) :=
  out_addAll (fun _ _ => rfl) files r

/-- A remark that nothing was found comes behind what was printed before. -/
theorem out_nothingFound (r : Report) (query : String) (e : Expr) (m : PathMatch) :
    (r.nothingFound query e m).out = r.out ++ (Report.empty.nothingFound query e m).out := by
  rw [nothingFound, nothingFound]
  split
  · simp only [info, say, write, empty, String.empty_append, String.append_assoc]
  · simp only [info, say, write, empty, String.empty_append]

end Report

theorem CommandCall.out_preface (q : CommandCall) : q.preface.out = "" := by
  rw [preface]
  split
  · rfl
  · exact Report.out_warnAll _ _ _

/-! ## Limits -/

namespace CommandCall

/-- The search that a call asks for. -/
def request (q : CommandCall) : SearchRequest := .ofUses q.uses q.operands

/-- How paths are matched in a search. -/
def pathMatch (q : CommandCall) : PathMatch := q.request.pathMatch.getD q.settings.pathMatch

/-- The limit of a search: the number that is given, or else the one of the settings. -/
def limit (q : CommandCall) : Option Int :=
  match OptionUse.value? q.uses "limit" with
  | some text => Text.readWhole? text
  | none => q.settings.limit

end CommandCall

/-- Behind the name of a command stand arguments that the command accepts. -/
theorem CommandPath.Reads.exists_accept {c d : CommandPath} {uses : List OptionUse}
    {operands : List String} (read : c.Reads h arguments d uses operands) :
    ∃ rest, d.spec.accept h rest = .ok (uses, operands) := by
  cases read with
  | plain _ accepted => exact ⟨_, accepted⟩
  | further _ _ _ accepted => exact ⟨_, accepted⟩

namespace Host

variable {q : CommandCall}

/-- A limit that is given is a number, and at least one. -/
theorem Reads.exists_limit (read : h.Reads arguments q) (search : q.command = .search)
    {text : String} (given : OptionUse.value? q.uses "limit" = some text) :
    ∃ n, Text.readWhole? text = some n ∧ 1 ≤ n := by
  obtain ⟨_, _, _, _, _, further⟩ := read.named
  obtain ⟨rest, accepted⟩ := further.exists_accept
  rw [search] at accepted
  have passed := CommandSpec.refuse?_of_accept accepted
    (o := { name := "limit", spellings := ["--limit", "-l"], kind := .count }) (by decide) given
  rw [ValueKind.refuse?] at passed
  split at passed
  · cases passed
  · rename_i n whole
    refine ⟨n, whole, ?_⟩
    split at passed
    · assumption
    · cases passed

/-- The settings for a command line are those of a file, with another directory if one is given. -/
theorem exists_load_of_settingsFor {uses : List OptionUse} {s : Settings}
    {w : List SettingsWarning} (loaded : h.settingsFor uses = .ok (s, w)) :
    ∃ file base doubts, Settings.load h file = .ok (base, doubts) ∧
      (s = base ∨ ∃ dir root, h.resolve (.ofText dir) = .ok root ∧ s = { base with root }) := by
  obtain ⟨⟨base, doubts⟩, load, rest⟩ := bind_eq_ok_iff.1 loaded
  refine ⟨_, base, doubts, load, ?_⟩
  dsimp only at rest
  split at rest
  · obtain ⟨rfl, _⟩ := Prod.mk.inj (Except.ok.inj rest)
    exact Or.inl rfl
  · rename_i dir _
    obtain ⟨root, resolved, rest⟩ := bind_eq_ok_iff.1 rest
    obtain ⟨rfl, _⟩ := Prod.mk.inj (Except.ok.inj rest)
    exact Or.inr ⟨dir, root, mapError_eq_ok_iff.1 resolved, rfl⟩

/-- The limit of settings that were loaded is positive. -/
theorem pos_of_settingsFor {uses : List OptionUse} {s : Settings} {w : List SettingsWarning}
    (loaded : h.settingsFor uses = .ok (s, w)) : ∀ n ∈ s.limit, 0 < n := by
  obtain ⟨_, _, _, load, same⟩ := exists_load_of_settingsFor loaded
  obtain ⟨_, _, _, _, checked, _⟩ := Settings.load_eq_ok_iff.1 load
  obtain ⟨_, _, _, _, rfl, _⟩ := Settings.check_eq_ok_iff.1 checked
  rcases same with rfl | ⟨_, _, _, rfl⟩ <;> exact Settings.pos_of_mem_positiveLimit

/-- **The limit of a search is positive.** -/
theorem one_le_limit (read : h.Reads arguments q) (search : q.command = .search) :
    ∀ n ∈ q.limit, 1 ≤ n := by
  intro n mem
  rw [CommandCall.limit] at mem
  split at mem
  · rename_i text given
    obtain ⟨n', whole, positive⟩ := read.exists_limit search given
    obtain rfl := Option.some.inj (whole.symm.trans mem)
    exact positive
  · exact pos_of_settingsFor read.settings n mem

/-- A search is limited by what is given, or else by the settings. -/
theorem Reads.limit_eq (read : h.Reads arguments q) (search : q.command = .search) :
    (q.request.limit.orElse fun _ => q.settings.limit) = q.limit := by
  rw [CommandCall.limit]
  show (((OptionUse.value? q.uses "limit").bind _).orElse fun _ => q.settings.limit) = _
  cases given : OptionUse.value? q.uses "limit" with
  | none => rfl
  | some text =>
    obtain ⟨n, whole, _⟩ := read.exists_limit search given
    rw [Option.bind_some, whole]
    exact whole.symm

end Host

/-! ## Searches of an index that was built -/

/-- Within the capacity every file comes with its tags. -/
theorem Catalog.withTagsOf?_of_le (c : Catalog) {files : List FileRecord}
    (fits : files.length ≤ capacity) :
    c.withTagsOf? capacity files = some (files.map fun f => ⟨f, c.tagsOf f.id⟩) := by
  have within : (files.map (·.id)).length ≤ capacity := by rwa [List.length_map]
  rw [withTagsOf?, tagsByFile?, if_pos within, Option.map_some]
  refine congrArg some (List.map_congr_left fun f mem => ?_)
  rw [getD_lookup_tagsByFile (List.mem_map_of_mem mem)]

theorem Catalog.withTagsOf?_of_lt (c : Catalog) {files : List FileRecord}
    (large : capacity < files.length) : c.withTagsOf? capacity files = none := by
  have beyond : ¬ (files.map (·.id)).length ≤ capacity := by rwa [List.length_map, not_le]
  rw [withTagsOf?, tagsByFile?, if_neg beyond]
  rfl

/-- What a search leaves whose result is known. -/
def IndexSession.found (s : IndexSession) (capacity : Nat) (q : SearchRequest) (e : Expr)
    (m : PathMatch) (r : Report) : Except SearchError (List FileRecord) → Outcome
  | .error fault => ⟨.indexError, r.indexError fault.message, s.abort⟩
  | .ok [] => ⟨.success, r.nothingFound q.query e m, s.close⟩
  | .ok files =>
    match s.session.catalog.withTagsOf? capacity files with
    | some found => ⟨.success, r.found q.format q.query found, s.close⟩
    | none => ⟨.indexError, r.indexError tooManyValues, s.abort⟩

/-- How a search for paths ends with a result, and what it prints about it. -/
def SearchRequest.answer (q : SearchRequest) (capacity : Nat) (e : Expr) (m : PathMatch) :
    Except SearchError (List FileRecord) → ExitCode × String
  | .error _ => (.indexError, "")
  | .ok files =>
    if files = [] then (.success, (Report.empty.nothingFound q.query e m).out)
    else if files.length ≤ capacity then
      (.success, String.join (files.map fun f => pathLine f.path))
    else (.indexError, "")

namespace SearchRequest

variable {q : SearchRequest} {e : Expr} {m : PathMatch} {files : List FileRecord}

theorem answer_ok_of_le (fits : files.length ≤ capacity) :
    q.answer capacity e m (.ok files) =
      (.success, if files = [] then (Report.empty.nothingFound q.query e m).out
        else String.join (files.map fun f => pathLine f.path)) := by
  rw [answer, if_pos fits]
  split <;> rfl

theorem answer_ok_of_lt (large : capacity < files.length) :
    q.answer capacity e m (.ok files) = (.indexError, "") := by
  have some : files ≠ [] := List.ne_nil_of_length_pos (Nat.zero_lt_of_lt large)
  rw [answer, if_neg some, if_neg (not_le.2 large)]

end SearchRequest

/-- **A search for paths ends with the answer to it**: the paths found, or a remark that there are
none. It fails if the limit is too large or the files are beyond the capacity. -/
theorem IndexSession.found_eq_answer (s : IndexSession) (capacity : Nat) {q : SearchRequest}
    (paths : q.format = .paths) (e : Expr) (m : PathMatch) (r : Report)
    (result : Except SearchError (List FileRecord)) :
    (s.found capacity q e m r result).code = (q.answer capacity e m result).1 ∧
    (s.found capacity q e m r result).report.out =
      r.out ++ (q.answer capacity e m result).2 := by
  cases result with
  | error fault => exact ⟨rfl, String.append_empty.symm⟩
  | ok files =>
    by_cases none : files = []
    · subst none
      exact ⟨rfl, Report.out_nothingFound r q.query e m⟩
    · rw [found, SearchRequest.answer, if_neg none]
      · by_cases fits : files.length ≤ capacity
        · rw [Catalog.withTagsOf?_of_le _ fits, if_pos fits]
          refine ⟨rfl, ?_⟩
          dsimp only
          rw [paths, Report.out_found_paths, List.map_map]
          rfl
        · rw [Catalog.withTagsOf?_of_lt _ (not_le.1 fits), if_neg fits]
          exact ⟨rfl, String.append_empty.symm⟩
      · exact none

/-- A search runs to the result of its query on the index, once that is built. It warns of nothing
on the output. -/
theorem CommandContext.exists_searchIndex {c : CommandContext} {s s' : IndexSession}
    {q : SearchRequest} {root : PathText} {r r' : Report}
    (built : c.refresh s root q.rescan r = .ok (s', r')) (e : Expr) (m : PathMatch) :
    ∃ r'', r''.out = r'.out ∧ c.searchIndex q root e m s r =
      s'.found c.capacity q e m r''
        (s'.session.catalog.search e m (q.limit.orElse fun _ => c.settings.limit)) := by
  refine ⟨c.unlessQuiet r' fun r => r.addAll
    (fun r name => r.warn ("No files are tagged '" ++ name ++ "'"))
      (unusedTags s'.session.catalog e), ?_, ?_⟩
  · rw [unlessQuiet]
    split
    · rfl
    · exact Report.out_warnAll _ _ _
  · rw [searchIndex, built]
    dsimp only
    cases s'.session.catalog.search e m (q.limit.orElse fun _ => c.settings.limit) with
    | error fault => rfl
    | ok files => cases files <;> rfl

theorem CommandContext.withRoot_of_find? {c : CommandContext}
    (found : ∃ entries, c.host.disk.find? c.host.cwd c.settings.root = .ok (some (.dir entries)))
    (r : Report) (go : PathText → Outcome) : c.withRoot r go = go c.settings.root := by
  obtain ⟨entries, found⟩ := found
  rw [withRoot, found]

theorem CommandContext.withIndex_of_openIndex {c : CommandContext} {root : PathText}
    {s : IndexSession} (opened : c.host.openIndex root = .ok s) (r : Report)
    (go : IndexSession → Outcome) : c.withIndex r root go = go s := by
  rw [withIndex, opened]

/-- An index that was built is not built again, unless that is asked for. -/
theorem CommandContext.refresh_of_built {c : CommandContext} {s : IndexSession}
    (built : s.session.catalog.state.isSome = true) (root : PathText) (r : Report) :
    c.refresh s root false r = .ok (s, r) := by
  rw [refresh, Option.isNone_eq_false_iff.2 built]
  rfl

namespace Host

variable {q : CommandCall} {e : Expr} {s : IndexSession}

/-- A command line that searches a directory runs on the index of it, behind what is printed about
the query. -/
theorem Reads.run_search (read : h.Reads arguments q) (search : q.command = .search)
    (root : ∃ entries, h.disk.find? h.cwd q.settings.root = .ok (some (.dir entries)))
    (parsed : parse q.request.query = .ok e) (ticks : List (List DiskEvent)) (capacity : Nat) :
    ∃ r, r.out = q.request.explanation e q.pathMatch ∧ h.run arguments ticks capacity =
      (q.context h capacity).withIndex r q.settings.root fun s =>
        (q.context h capacity).searchIndex q.request q.settings.root e q.pathMatch s r := by
  refine ⟨if q.request.explain then
      (q.preface.say e.display).say (Predicate.ofExpr q.pathMatch e).render
    else q.preface, ?_, ?_⟩
  · rw [SearchRequest.explanation]
    split
    · simp only [Report.say, Report.write, q.out_preface, String.empty_append, String.append_assoc]
    · exact q.out_preface
  · rw [run_of_reads read, search]
    show (q.context h capacity).search q.request q.preface = _
    rw [CommandContext.search, CommandContext.withRoot_of_find? (c := q.context h capacity) root]
    dsimp only
    rw [parsed]
    rfl

/-- A command line searches an index that was built, and is not asked to build it again. Its messages
are free of brackets. -/
structure Searches (h : Host) (arguments : List String) (q : CommandCall) (e : Expr)
    (s : IndexSession) : Prop where
  read : h.Reads arguments q
  search : q.command = .search
  kept : q.request.rescan = false
  root : ∃ entries, h.disk.find? h.cwd q.settings.root = .ok (some (.dir entries))
  parsed : parse q.request.query = .ok e
  opened : h.openIndex q.settings.root = .ok s
  built : s.session.catalog.state.isSome = true
  messages : q.IsBracketFree

/-- **A search runs to the result of its query**, behind what is printed about the query. -/
theorem Searches.run_eq (searches : h.Searches arguments q e s)
    (ticks : List (List DiskEvent)) (capacity : Nat) :
    ∃ r, r.out = q.request.explanation e q.pathMatch ∧ h.run arguments ticks capacity =
      s.found capacity q.request e q.pathMatch r
        (s.session.catalog.search e q.pathMatch q.limit) := by
  obtain ⟨read, search, kept, root, parsed, opened, built, -⟩ := searches
  obtain ⟨r, out, run⟩ := read.run_search search root parsed ticks capacity
  have same := CommandContext.refresh_of_built (c := q.context h capacity) built q.settings.root r
  rw [← kept] at same
  obtain ⟨r', out', result⟩ := CommandContext.exists_searchIndex same e q.pathMatch
  refine ⟨r', out'.trans out, ?_⟩
  rw [run, CommandContext.withIndex_of_openIndex (c := q.context h capacity) opened, result,
    ← read.limit_eq search]
  rfl

/-! ## What is printed -/

/-- **A search prints the first paths.** The files found are the recorded ones that the query holds
of, in the order of their paths. The limit that is given, or else that of the settings, is positive.
If it fits into a signed number of 64 bits, or there is none, and the files that it leaves are
within the capacity, the search succeeds and prints the first paths, as many as the limit says, or
remarks that there are none. Otherwise the search fails at the index and prints no path. -/
theorem search_prints_first (searches : h.Searches arguments q e s)
    (paths : q.request.format = .paths) (ticks : List (List DiskEvent)) (capacity : Nat) :
    let c := s.session.catalog
    let files := c.select (.ofExpr q.pathMatch e)
    let first := firstOf q.limit files
    let explanation := q.request.explanation e q.pathMatch
    let after := h.run arguments ticks capacity
    files.Perm (c.files.filter ((Predicate.ofExpr q.pathMatch e).holds c)) ∧
    (files.map (·.path)).Pairwise (· ≤ ·) ∧ (∀ n ∈ q.limit, 1 ≤ n) ∧
    ((∀ n ∈ q.limit, n < limitBound) ∧ first.length ≤ capacity →
      after.code = .success ∧
      after.report.out = explanation ++
        if files = [] then (Report.empty.nothingFound q.request.query e q.pathMatch).out
        else String.join (first.map fun f => pathLine f.path)) ∧
    ((∃ n ∈ q.limit, limitBound ≤ n) ∨ capacity < first.length →
      after.code = .indexError ∧ after.report.out = explanation) := by
  intro c files first explanation after
  have positive := one_le_limit searches.read searches.search
  -- The run ends with the answer to the result of the query.
  obtain ⟨r, out, run⟩ := searches.run_eq ticks capacity
  obtain ⟨code, printed⟩ := s.found_eq_answer capacity paths e q.pathMatch r
    (c.search e q.pathMatch q.limit)
  rw [← run] at code printed
  rw [out] at printed
  have cut (fits : ∀ n ∈ q.limit, n < limitBound) :
      c.search e q.pathMatch q.limit = .ok first := by
    refine takeLimit_eq (fun n mem => ⟨?_, fits n mem⟩) _
    exact le_trans (by decide) (positive n mem)
  refine ⟨c.pick_perm _, c.paths_select_pairwise _, positive, fun ⟨fits, within⟩ => ?_,
    fun fails => ?_⟩
  · rw [cut fits, SearchRequest.answer_ok_of_le within] at code printed
    simp only [first, firstOf_eq_nil_iff positive] at printed
    exact ⟨code, printed⟩
  · have failed : q.request.answer capacity e q.pathMatch (c.search e q.pathMatch q.limit) =
        (.indexError, "") := by
      by_cases fits : ∀ n ∈ q.limit, n < limitBound
      · rw [cut fits]
        refine SearchRequest.answer_ok_of_lt (fails.resolve_left ?_)
        exact fun ⟨n, mem, large⟩ => absurd (fits n mem) (not_lt.2 large)
      · obtain ⟨n, mem, large⟩ : ∃ n ∈ q.limit, limitBound ≤ n := by
          simpa only [not_forall, not_lt, exists_prop] using fits
        rw [Catalog.search, show q.limit = some n from mem, takeLimit, if_pos (Or.inr large)]
        rfl
    rw [failed] at code printed
    exact ⟨code, printed.trans String.append_empty⟩

/-! ### Two limits -/

/-- The arguments of a search for one path, with a limit. -/
def limitedArguments (limit : String) : List String := ["-f", "paths", "-l", limit, "inpath:a"]

/-- A command line with them. -/
def limitedLine (limit : String) : List String :=
  ["-c", "c", "-R", "r", "search"] ++ limitedArguments limit

/-- What it calls. -/
def limitedCall (limit : String) : CommandCall :=
  taggedCall .search [⟨"format", "paths", true⟩, ⟨"limit", limit, true⟩] ["inpath:a"]

theorem request_limitedCall (limit : String) : (limitedCall limit).request =
    ⟨["inpath:a"], .paths, Text.readWhole? limit, none, false, false⟩ := rfl

theorem limit_limitedCall (limit : String) :
    (limitedCall limit).limit = Text.readWhole? limit := rfl

/-- A command line whose limit is accepted searches the index. -/
theorem exists_searches_limitedCall (limit : String)
    (accepted : CommandPath.search.spec.accept taggedHost (limitedArguments limit) =
      .ok ((limitedCall limit).uses, ["inpath:a"])) :
    ∃ s, s.session = .start taggedIndex ∧
      taggedHost.Searches (limitedLine limit) (limitedCall limit) (.term (.inPath "a")) s := by
  obtain ⟨s, opened, session⟩ := openIndex_taggedHost
  have before : CommandPath.program.spec.accept taggedHost (limitedLine limit) =
      .ok (taggedGlobals, "search" :: limitedArguments limit) := by cbv
  have query : parse (" ".intercalate ["inpath:a"]) = .ok (.term (.inPath "a")) := by
    decide +kernel
  have built : (Session.start taggedIndex).catalog.state.isSome = true := by decide +kernel
  exact ⟨s, session, {
    read := ⟨settingsFor_taggedGlobals, _, _, .search, before, by cbv, .plain rfl accepted⟩
    search := rfl
    kept := rfl
    root := find?_taggedHost
    parsed := by rw [request_limitedCall, SearchRequest.query, query]
    opened
    built := by rw [session, built]
    messages := isBracketFree_taggedCall (by decide) }⟩

theorem search_prints_first_one : ∃ s,
    taggedHost.Searches (limitedLine "1") (limitedCall "1") (.term (.inPath "a")) s ∧
    (limitedCall "1").request.format = .paths ∧
    (taggedHost.run (limitedLine "1") []).code = .success ∧
    (taggedHost.run (limitedLine "1") []).report.out = "a\n" := by
  obtain ⟨s, session, searches⟩ := exists_searches_limitedCall "1" (by decide +kernel)
  have limit : (limitedCall "1").limit = some 1 := (limit_limitedCall "1").trans (by decide)
  obtain ⟨_, _, _, prints, _⟩ := search_prints_first searches rfl [] usualCapacity
  have fits : ∀ n ∈ (limitedCall "1").limit, n < limitBound := fun n mem => by
    obtain rfl := Option.some.inj (limit.symm.trans mem)
    decide
  have within : (firstOf (limitedCall "1").limit (s.session.catalog.select
      (.ofExpr (limitedCall "1").pathMatch (.term (.inPath "a"))))).length ≤ usualCapacity := by
    rw [limit]
    exact le_trans (List.length_take_le _ _) (by decide)
  obtain ⟨code, out⟩ := prints ⟨fits, within⟩
  refine ⟨s, searches, rfl, code, out.trans ?_⟩
  rw [session, limit, request_limitedCall]
  cbv

/-- A limit of 2^63 gets through, and the search for a file that is recorded fails. -/
theorem limit_can_be_too_large : ∃ s,
    taggedHost.Searches (limitedLine "9223372036854775808") (limitedCall "9223372036854775808")
      (.term (.inPath "a")) s ∧
    (limitedCall "9223372036854775808").limit = some limitBound ∧
    s.session.catalog.search (.term (.inPath "a")) .whole none = .ok [⟨1, "a", true⟩] ∧
    (taggedHost.run (limitedLine "9223372036854775808") []).code = .indexError ∧
    (taggedHost.run (limitedLine "9223372036854775808") []).report.out = "" := by
  obtain ⟨s, session, searches⟩ :=
    exists_searches_limitedCall "9223372036854775808" (by decide +kernel)
  have limit : (limitedCall "9223372036854775808").limit = some limitBound :=
    (limit_limitedCall _).trans (by decide)
  obtain ⟨r, out, run⟩ := searches.run_eq [] usualCapacity
  refine ⟨s, searches, limit, ?_, ?_⟩
  · rw [session]
    cbv
  · rw [run, limit, Catalog.search, takeLimit, if_pos (by decide)]
    exact ⟨rfl, out⟩

end Host

end TagSearch
