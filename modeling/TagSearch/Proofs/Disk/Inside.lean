import TagSearch.Proofs.Disk.IndexPath

/-!
# Paths that stay inside

A path leads to its target by its names: one after the other, up at two dots, and along the target
of a link from the directory that the link lies in. If it leads anywhere, no link is met while it is
being followed, and the path resolves to its target. So a path has a name in an index exactly if its
target is the indexed directory or lies below it by whole names, and the name leads to the target.

* `Node.Leads`: names lead from a place to another one, through some number of links.
* `Node.Leads.deterministic`: they lead to one place only.
* `Node.Leads.resolveFrom`: resolving them arrives there.
* `Node.meetsCycle_iff`: only where links form a cycle they lead nowhere.
* `Node.index_path_stays_inside`: the name of a path in an index.
-/

namespace TagSearch.Node

variable {α : Type} {disk : Node α} {cwd here there mid : Place} {names : List String}
  {root path : PathText} {count : Nat}

/-! ## Where names lead -/

/-- Some names lead from a place to another one, through some number of links. There need not be
anything at these places. -/
inductive Leads (disk : Node α) : Nat → Place → List String → Place → Prop where
  | done (here : Place) : Leads disk 0 here [] here
  | stay {count : Nat} {here there : Place} {name : String} {rest : List String} :
    name = "" ∨ name = "." → Leads disk count here rest there →
    Leads disk count here (name :: rest) there
  | up {count : Nat} {here there : Place} {rest : List String} :
    Leads disk count here.dropLast rest there → Leads disk count here (".." :: rest) there
  | down {count : Nat} {here there : Place} {name : String} {rest : List String} :
    IsName name → (∀ t, disk.get? (here ++ [name]) ≠ some (.link t)) →
    Leads disk count (here ++ [name]) rest there → Leads disk count here (name :: rest) there
  | link {inner count : Nat} {here mid there : Place} {name target : String}
      {rest : List String} :
    IsName name → disk.get? (here ++ [name]) = some (.link target) →
    Leads disk inner (startPlace here target) (rawNames target) mid →
    Leads disk count mid rest there → Leads disk (inner + count + 1) here (name :: rest) there

namespace Leads

theorem of_stay {name : String} (h : disk.Leads count here (name :: names) there)
    (empty : name = "" ∨ name = ".") : disk.Leads count here names there := by
  cases h with
  | stay _ rest => exact rest
  | up => rcases empty with empty | empty <;> exact absurd empty (by decide)
  | down named => exact (empty.elim named.1 named.2.1).elim
  | link named => exact (empty.elim named.1 named.2.1).elim

theorem of_up (h : disk.Leads count here (".." :: names) there) :
    disk.Leads count here.dropLast names there := by
  cases h with
  | stay empty => rcases empty with empty | empty <;> exact absurd empty (by decide)
  | up rest => exact rest
  | down named => exact (named.2.2.1 rfl).elim
  | link named => exact (named.2.2.1 rfl).elim

theorem of_down {name : String} (h : disk.Leads count here (name :: names) there)
    (named : IsName name) (plain : ∀ t, disk.get? (here ++ [name]) ≠ some (.link t)) :
    disk.Leads count (here ++ [name]) names there := by
  cases h with
  | stay empty => exact (empty.elim named.1 named.2.1).elim
  | up => exact (named.2.2.1 rfl).elim
  | down _ _ rest => exact rest
  | link _ link => exact (plain _ link).elim

theorem of_link {name target : String} (h : disk.Leads count here (name :: names) there)
    (named : IsName name) (link : disk.get? (here ++ [name]) = some (.link target)) :
    ∃ inner outer mid, count = inner + outer + 1 ∧
      disk.Leads inner (startPlace here target) (rawNames target) mid ∧
      disk.Leads outer mid names there := by
  cases h with
  | stay empty => exact (empty.elim named.1 named.2.1).elim
  | up => exact (named.2.2.1 rfl).elim
  | down _ plain => exact (plain _ link).elim
  | link _ link' first rest =>
    obtain rfl := Node.link.inj (Option.some.inj (link.symm.trans link'))
    exact ⟨_, _, _, rfl, first, rest⟩

/-- **Names lead to one place only**, and through one number of links. -/
theorem deterministic (h : disk.Leads count here names there) {count' : Nat} {there' : Place}
    (h' : disk.Leads count' here names there') : count = count' ∧ there = there' := by
  induction h generalizing count' there' with
  | done =>
    cases h'
    exact ⟨rfl, rfl⟩
  | stay empty _ ih => exact ih (h'.of_stay empty)
  | up _ ih => exact ih h'.of_up
  | down named plain _ ih => exact ih (h'.of_down named plain)
  | link named link _ _ ih ih' =>
    obtain ⟨inner, outer, mid, rfl, first, rest⟩ := h'.of_link named link
    obtain ⟨rfl, rfl⟩ := ih first
    obtain ⟨rfl, rfl⟩ := ih' rest
    exact ⟨rfl, rfl⟩

/-- No name that leads anywhere holds a NUL. -/
theorem nul_notMem (h : disk.Leads count here names there) :
    ∀ name ∈ names, '\x00' ∉ name.toList := by
  induction h with
  | done => exact List.forall_mem_nil _
  | stay empty _ ih =>
    exact List.forall_mem_cons.2 ⟨by rcases empty with rfl | rfl <;> decide, ih⟩
  | up _ ih => exact List.forall_mem_cons.2 ⟨by decide, ih⟩
  | down named _ _ ih => exact List.forall_mem_cons.2 ⟨named.2.2.2.2, ih⟩
  | link named _ _ _ _ ih => exact List.forall_mem_cons.2 ⟨named.2.2.2.2, ih⟩

/-- Names lead to places of names that entries can have. -/
theorem isName (h : disk.Leads count here names there) (start : ∀ name ∈ here, IsName name) :
    ∀ name ∈ there, IsName name := by
  induction h with
  | done => exact start
  | stay _ _ ih => exact ih start
  | up _ ih => exact ih fun name mem => start name (List.mem_of_mem_dropLast mem)
  | down named _ _ ih =>
    exact ih (List.forall_mem_append.2 ⟨start, List.forall_mem_singleton.2 named⟩)
  | link _ _ _ _ ih ih' =>
    refine ih' (ih ?_)
    rw [startPlace]
    split
    · exact List.forall_mem_nil _
    · exact start

/-- Names on which there is no link may be passed first. -/
theorem linkless_append {lead : List String} (named : ∀ name ∈ lead, IsName name)
    (linkless : disk.Linkless (here ++ lead))
    (h : disk.Leads count (here ++ lead) names there) :
    disk.Leads count here (lead ++ names) there := by
  induction lead generalizing here with
  | nil => rwa [List.append_nil] at h
  | cons name lead ih =>
    obtain ⟨first, named⟩ := List.forall_mem_cons.1 named
    have split : here ++ name :: lead = here ++ [name] ++ lead := by
      rw [List.append_assoc, List.singleton_append]
    rw [split] at linkless h
    exact .down first (linkless _ (List.prefix_append _ _)) (ih named linkless h)

/-- Names on which there is no link lead to the place below. -/
theorem of_linkless (named : ∀ name ∈ names, IsName name)
    (linkless : disk.Linkless (here ++ names)) : disk.Leads 0 here names (here ++ names) := by
  have leads := linkless_append named linkless (.done _)
  rwa [List.append_nil] at leads

end Leads

/-! ## Resolving -/

/-- The links that may not be followed, because they are being followed, are those whose targets
lead through more links than are still to follow. -/
def Spare (disk : Node α) (opened : List Route) (count : Nat) : Prop :=
  ∀ (here : Place) (name target : String), disk.get? (here ++ [name]) = some (.link target) →
    ⟨here ++ [name], none⟩ ∉ opened → ∀ inner mid,
      disk.Leads inner (startPlace here target) (rawNames target) mid → count ≤ inner

/-- **Resolving arrives where the names lead.** A link that is met again while it is being followed
would lead through more links than itself. -/
theorem Leads.resolveFrom (h : disk.Leads count here names there) {opened : List Route}
    (spare : disk.Spare opened count) :
    disk.resolveFrom cwd opened ⟨here, none⟩ names = .ok ⟨there, none⟩ := by
  induction h generalizing opened with
  | done => rw [Node.resolveFrom]
  | stay empty _ ih =>
    rw [Node.resolveFrom, if_pos empty]
    exact ih spare
  | up _ ih =>
    rw [Node.resolveFrom, if_neg (by decide), if_pos rfl]
    exact ih spare
  | down named plain _ ih =>
    obtain ⟨full, single, double, _⟩ := named
    rw [Node.resolveFrom, if_neg (not_or.2 ⟨full, single⟩), if_neg double]
    split
    · rename_i target link
      exact (plain target link).elim
    · exact ih spare
  | @link inner count here mid there name target rest named link first _ ih ih' =>
    obtain ⟨full, single, double, _⟩ := named
    have isOpen : (Route.down ⟨here, none⟩ name) ∈ opened := by
      by_contra closed
      have := spare here name target link closed inner mid first
      omega
    have within : disk.Spare (opened.erase (Route.down ⟨here, none⟩ name)) inner := by
      intro here' name' target' link' closed inner' mid' leads
      by_cases same : here' ++ [name'] = here ++ [name]
      · obtain ⟨rfl, e⟩ := List.append_inj' same rfl
        obtain rfl : name' = name := List.singleton_inj.1 e
        obtain rfl := Node.link.inj (Option.some.inj (link.symm.trans link'))
        exact (first.deterministic leads).1.le
      · have other : (⟨here' ++ [name'], none⟩ : Route) ≠ Route.down ⟨here, none⟩ name :=
          fun e => same (congrArg Route.place e)
        have := spare here' name' target' link'
          (fun mem => closed ((List.mem_erase_of_ne other).2 mem)) inner' mid' leads
        omega
    have start : Route.linkStart ⟨here, none⟩ target = ⟨startPlace here target, none⟩ := by
      rw [Route.linkStart, startPlace]
      split <;> rfl
    rw [Node.resolveFrom, if_neg (not_or.2 ⟨full, single⟩), if_neg double]
    rw [show disk.get? (Route.down ⟨here, none⟩ name).place = some (.link target) from link]
    dsimp only
    rw [if_pos isOpen, start, ih within]
    exact ih' fun here' name' target' link' closed inner' mid' leads => by
      have := spare here' name' target' link' closed inner' mid' leads
      omega

/-- At first every link may be followed. -/
theorem spare_linkRoutes (proper : disk.Proper) (cwd : Place) (count : Nat) :
    disk.Spare (disk.linkRoutes cwd) count := by
  intro here name target link closed
  refine (closed (List.mem_flatMap.2 ⟨here ++ [name], ?_, List.mem_cons_self⟩)).elim
  exact (mem_links_iff proper).2 ⟨List.append_ne_nil_of_right_ne_nil _ (List.cons_ne_nil _ _),
    target, link⟩

theorem start_of_isAbsolute (absolute : path.isAbsolute = true) (cwd : Place) :
    Route.start cwd path = ⟨[], none⟩ := by
  rw [Route.start, if_pos absolute]
  rfl

/-- **A path from the top resolves to its target.** -/
theorem Leads.resolve (h : disk.Leads count [] path.parts there) (proper : disk.Proper)
    (absolute : path.isAbsolute = true) : disk.resolve cwd path = .ok (.ofPlace there) := by
  rw [resolve_of_clean h.nul_notMem, start_of_isAbsolute absolute,
    h.resolveFrom (spare_linkRoutes proper cwd count)]

/-- What resolving arrives at is where the names lead. -/
theorem exists_leads_of_resolveFrom (sound : disk.Sound) {opened : List Route} {start r : Route}
    (raw : ∀ name ∈ names, IsRaw name) (h : disk.resolveFrom cwd opened start names = .ok r) :
    ∃ count, disk.Leads count start.place names r.place := by
  fun_induction Node.resolveFrom disk cwd opened start names generalizing r with
  | case1 =>
    obtain rfl := Except.ok.inj h
    exact ⟨0, .done _⟩
  | case2 opened start name rest empty ih =>
    obtain ⟨count, leads⟩ := ih (List.forall_mem_cons.1 raw).2 h
    exact ⟨count, .stay empty leads⟩
  | case3 opened start rest _ ih =>
    obtain ⟨count, leads⟩ := ih (List.forall_mem_cons.1 raw).2 h
    exact ⟨count, .up leads⟩
  | case4 opened start name rest meant down target link mem mid inner ih ih' =>
    obtain ⟨first, later⟩ := List.forall_mem_cons.1 raw
    have targets : ∀ name ∈ rawNames target, IsRaw name := fun name mem =>
      isRaw_of_mem_rawNames (sound.targets _ _ link) mem
    obtain ⟨count, leads⟩ := ih targets inner
    obtain ⟨count', leads'⟩ := ih' later h
    have place : (start.linkStart target).place = startPlace start.place target := by
      rw [Route.linkStart, startPlace]
      split <;> rfl
    rw [place] at leads
    exact ⟨_, .link (first.isName meant down) link leads leads'⟩
  | case5 => cases h
  | case6 => cases h
  | case7 opened start name rest meant down plain ih =>
    obtain ⟨first, later⟩ := List.forall_mem_cons.1 raw
    obtain ⟨count, leads⟩ := ih later h
    exact ⟨count, .down (first.isName meant down) (fun t link => plain t link) leads⟩

/-- **A path from the top meets links in a cycle exactly if its names lead nowhere.** -/
theorem meetsCycle_iff (sound : disk.Sound) (absolute : path.isAbsolute = true)
    (written : ∀ name ∈ path.parts, IsStep name) :
    disk.MeetsCycle cwd path ↔ ∀ count there, ¬ disk.Leads count [] path.parts there := by
  rw [MeetsCycle, start_of_isAbsolute absolute]
  constructor
  · rintro ⟨p, stuck⟩ count there leads
    rw [leads.resolveFrom (spare_linkRoutes sound.proper cwd count)] at stuck
    cases stuck
  · intro nowhere
    cases way : disk.resolveFrom cwd (disk.linkRoutes cwd) ⟨[], none⟩ path.parts with
    | ok r =>
      obtain ⟨count, leads⟩ :=
        exists_leads_of_resolveFrom sound (fun name mem => (written name mem).isRaw) way
      exact (nowhere count r.place leads).elim
    | error p => exact ⟨p, rfl⟩

/-! ## Names in an index -/

/-- Where the names of a path start: at the top, in the current directory if that lies in the
indexed one, or in the indexed one. -/
def startOf (cwd : Place) (root path : PathText) : Place :=
  if path.isAbsolute then [] else if root.parts <+: cwd then cwd else root.parts

theorem startOf_of_inside (relative : path.isAbsolute = false) (inside : root.parts <+: cwd) :
    startOf cwd root path = cwd := by
  rw [startOf, relative, if_neg Bool.false_ne_true, if_pos inside]

theorem startOf_of_outside (relative : path.isAbsolute = false) (outside : ¬ root.parts <+: cwd) :
    startOf cwd root path = root.parts := by
  rw [startOf, relative, if_neg Bool.false_ne_true, if_neg outside]

theorem relativeTo?_ofPlace_isSome (direct : disk.IsDirect root) (place : Place) :
    ((PathText.ofPlace place).relativeTo? root).isSome = true ↔ root.parts <+: place := by
  rw [PathText.relativeTo?, PathText.ofPlace, if_pos direct.top.symm, ← List.isPrefixOf_iff_prefix]
  split <;> simp_all

section

variable (proper : disk.Proper) (dir : disk.kind? cwd = some true) (direct : disk.IsDirect root)
  (rooted : ∀ name ∈ root.parts, IsName name)
  (leads : disk.Leads count (startOf cwd root path) path.parts there)

include proper dir direct rooted leads

/-- The path that is resolved for the name of a path leads where the path leads. -/
theorem resolve_join_of_leads :
    disk.resolve cwd
      ((if ((PathText.ofPlace cwd).relativeTo? root).isSome then .ofPlace cwd else root).join path) =
        .ok (.ofPlace there) := by
  cases absolute : path.isAbsolute with
  | true =>
    rw [startOf, absolute, if_pos rfl] at leads
    rw [PathText.join, absolute, if_pos rfl]
    exact leads.resolve proper absolute
  | false =>
    rw [PathText.join, absolute, if_neg Bool.false_ne_true]
    -- Both directories that the path may start from are reached from the top without a link.
    have above {lead : PathText} (anchor : lead.anchor = .top)
        (named : ∀ name ∈ lead.parts, IsName name) (linkless : disk.Linkless lead.parts)
        (rest : disk.Leads count lead.parts path.parts there) :
        disk.resolve cwd ⟨lead.anchor, lead.parts ++ path.parts⟩ = .ok (.ofPlace there) := by
      refine Leads.resolve (.linkless_append named linkless rest) proper ?_
      rw [PathText.isAbsolute, anchor]
      rfl
    by_cases inside : root.parts <+: cwd
    · rw [startOf_of_inside absolute inside] at leads
      rw [if_pos ((relativeTo?_ofPlace_isSome direct cwd).2 inside)]
      exact above rfl (proper.isName dir) (linkless_of_isDir dir) leads
    · rw [startOf_of_outside absolute inside] at leads
      rw [if_neg fun some => inside ((relativeTo?_ofPlace_isSome direct cwd).1 some)]
      exact above direct.top rooted direct.linkless leads

/-- A path is named by its target. -/
theorem indexPath_of_leads :
    disk.indexPath cwd root path =
      match (PathText.ofPlace there).relativeTo? root with
      | some names => .ok (joinNames names)
      | none => .error (.outside path.toText root.toText) := by
  have resolved := resolve_join_of_leads proper dir direct rooted leads
  cases named : (PathText.ofPlace there).relativeTo? root with
  | some names => simp only [indexPath, resolved, named]
  | none => simp only [indexPath, resolved, named]

end

/-- The names on the way to a target are names that entries can have. -/
theorem isName_of_leads (proper : disk.Proper) (dir : disk.kind? cwd = some true)
    (rooted : ∀ name ∈ root.parts, IsName name)
    (leads : disk.Leads count (startOf cwd root path) path.parts there) :
    ∀ name ∈ there, IsName name := by
  refine leads.isName fun name mem => ?_
  rw [startOf] at mem
  split at mem
  · cases mem
  · split at mem
    · exact proper.isName dir name mem
    · exact rooted name mem

/-- **A path that is named in an index stays inside the directory.** Let the directory be given by a
path that passes through no link, and let the names of a path lead to a target, from the top, from
the current directory if that lies in the indexed one, or from the indexed one. The target is the
only one. If the indexed directory leads to it by whole names, the path is named by the names that
are left, or by a dot if there is none, and the directory continued by this text is the target.
Otherwise the path is refused. -/
theorem index_path_stays_inside (proper : disk.Proper) (dir : disk.kind? cwd = some true)
    (direct : disk.IsDirect root) (rooted : ∀ name ∈ root.parts, IsName name)
    (leads : disk.Leads count (startOf cwd root path) path.parts there) :
    (∀ count' there', disk.Leads count' (startOf cwd root path) path.parts there' →
      there' = there) ∧
    (∀ names, there = root.parts ++ names →
      (∀ name ∈ names, IsName name) ∧ disk.indexPath cwd root path = .ok (joinNames names) ∧
        root.join (.ofText (joinNames names)) = .ofPlace there) ∧
    (¬ root.parts <+: there →
      disk.indexPath cwd root path = .error (.outside path.toText root.toText)) := by
  have named := isName_of_leads proper dir rooted leads
  have index := indexPath_of_leads proper dir direct rooted leads
  refine ⟨fun _ _ leads' => (leads'.deterministic leads).2, ?_, fun outside => ?_⟩
  · rintro names rfl
    obtain ⟨-, named⟩ := List.forall_mem_append.1 named
    have below : PathText.ofPlace (root.parts ++ names) = root.below names := by
      rw [PathText.below_eq, direct.top]
      rfl
    rw [below, PathText.relativeTo?_below] at index
    refine ⟨named, index, ?_⟩
    rw [ofText_joinNames fun name mem => (named name mem).isPart, below]
    rfl
  · rw [index]
    cases inside : (PathText.ofPlace there).relativeTo? root with
    | none => rfl
    | some names =>
      refine (outside ((relativeTo?_ofPlace_isSome direct there).1 ?_)).elim
      rw [inside]
      rfl

/-- A directory with links between two directories in it, and one beside it whose name starts with
its own. -/
def besideDisk : Node Unit :=
  .dir [("r", .dir [("d", .dir [("abs", .link "/r"), ("l", .link "../e/f")]),
    ("e", .dir [("f", .dir [])])]), ("rx", .dir [("a", .file ())])]

theorem proper_besideDisk : besideDisk.Proper := by simp [besideDisk, proper_dir_iff, IsName]

theorem links_besideDisk : besideDisk.links = [["r", "d", "abs"], ["r", "d", "l"]] := by cbv

theorem leads_besideDisk {here names : List String} (named : ∀ name ∈ names, IsName name)
    (apart : ∀ p ∈ [["r", "d", "abs"], ["r", "d", "l"]], ¬ p <+: here ++ names) :
    besideDisk.Leads 0 here names (here ++ names) := by
  rw [← links_besideDisk] at apart
  exact .of_linkless named (linkless_of_links proper_besideDisk apart)

/-- Two dots behind a link lead up from where the link leads: to a new name in the directory, or out
of it into the one beside. -/
theorem index_path_stays_inside_beside :
    let root := PathText.ofPlace ["r"]
    let path := PathText.ofText "l/../..//new/./t"
    let other := PathText.ofText "abs/../rx/a"
    (besideDisk.Proper ∧ besideDisk.kind? ["r", "d"] = some true ∧ besideDisk.IsDirect root ∧
      (∀ name ∈ root.parts, IsName name)) ∧
    (besideDisk.Leads 1 (startOf ["r", "d"] root path) path.parts ["r", "new", "t"] ∧
      besideDisk.indexPath ["r", "d"] root path = .ok "new/t" ∧
      root.join (.ofText "new/t") = .ofPlace ["r", "new", "t"]) ∧
    besideDisk.Leads 1 (startOf ["r", "d"] root other) other.parts ["rx", "a"] ∧
      ¬ root.parts <+: ["rx", "a"] ∧
      besideDisk.indexPath ["r", "d"] root other = .error (.outside "abs/../rx/a" "/r") := by
  intro root path other
  have dir : besideDisk.kind? ["r", "d"] = some true := by cbv
  have there : besideDisk.kind? ["r"] = some true := by cbv
  have direct : besideDisk.IsDirect root := ⟨rfl, linkless_of_isDir there⟩
  have rooted : ∀ name ∈ ["r"], IsName name := by simp [IsName]
  have inside : root.parts <+: ["r", "d"] := List.prefix_append ["r"] ["d"]
  have leads : besideDisk.Leads 1 (startOf ["r", "d"] root path) path.parts ["r", "new", "t"] := by
    have parts : path.parts = ["l", "..", "..", "new", "t"] := by cbv
    have target : rawNames "../e/f" = ["..", "e", "f"] := by cbv
    have link : besideDisk.get? ["r", "d", "l"] = some (.link "../e/f") := by cbv
    have first : besideDisk.Leads 0 ["r", "d"] ["..", "e", "f"] ["r", "e", "f"] :=
      .up (leads_besideDisk (by simp [IsName]) (by decide))
    have rest : besideDisk.Leads 0 ["r", "e", "f"] ["..", "..", "new", "t"] ["r", "new", "t"] :=
      .up (.up (leads_besideDisk (by simp [IsName]) (by decide)))
    rw [parts, startOf_of_inside (by cbv) inside]
    exact .link (by simp [IsName]) link (target ▸ first) rest
  have leads' : besideDisk.Leads 1 (startOf ["r", "d"] root other) other.parts ["rx", "a"] := by
    have parts : other.parts = ["abs", "..", "rx", "a"] := by cbv
    have target : rawNames "/r" = ["", "r"] := by cbv
    have link : besideDisk.get? ["r", "d", "abs"] = some (.link "/r") := by cbv
    have first : besideDisk.Leads 0 [] ["", "r"] ["r"] :=
      .stay (Or.inl rfl) (leads_besideDisk (by simp [IsName]) (by decide))
    have rest : besideDisk.Leads 0 ["r"] ["..", "rx", "a"] ["rx", "a"] :=
      .up (leads_besideDisk (by simp [IsName]) (by decide))
    rw [parts, startOf_of_inside (by cbv) inside]
    exact .link (by simp [IsName]) link (target ▸ first) rest
  have outside : ¬ root.parts <+: ["rx", "a"] := by
    show ¬ ["r"] <+: ["rx", "a"]
    decide
  obtain ⟨_, into, _⟩ := index_path_stays_inside proper_besideDisk dir direct rooted leads
  obtain ⟨_, _, out⟩ := index_path_stays_inside proper_besideDisk dir direct rooted leads'
  obtain ⟨_, index, joined⟩ := into ["new", "t"] rfl
  have text : joinNames ["new", "t"] = "new/t" := by decide
  rw [text] at index joined
  exact ⟨⟨proper_besideDisk, dir, direct, rooted⟩, ⟨leads, index, joined⟩, leads', outside,
    out outside⟩

end TagSearch.Node
