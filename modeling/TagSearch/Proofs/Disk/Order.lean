import TagSearch.Proofs.Disk.Links
import TagSearch.Proofs.Disk.Locate

/-!
# Disks in another order

The entries of a directory are listed in some order, and nothing is meant by it: with the entries in
another order there are the same directories, links and files at the same places, every path leads
where it led, and a scan finds the same paths.

* `Node.Reordered`: directories list their entries in another order, at any depth.
* `Node.SameTree`: what two such disks have in common.
* `Node.SameTree.follow` and `Node.SameTree.scanPaths`: paths and scans on them.
-/

namespace TagSearch.Node

variable {α : Type} {n n' n'' disk disk' : Node α}

/-- The same node with the entries of directories in another order. -/
inductive Reordered : Node α → Node α → Prop where
  | refl (n : Node α) : Reordered n n
  | trans {n n' n'' : Node α} : Reordered n n' → Reordered n' n'' → Reordered n n''
  | entries {es es' : List (String × Node α)} : es.Perm es' → Reordered (.dir es) (.dir es')
  | inside {n n' : Node α} (es : List (String × Node α)) (k : String)
      (es' : List (String × Node α)) : Reordered n n' →
      Reordered (.dir (es ++ (k, n) :: es')) (.dir (es ++ (k, n') :: es'))

/-- Two disks have the same directories and files at the same places, and the same links. -/
structure SameTree (disk disk' : Node α) : Prop where
  kinds : ∀ p, disk.kind? p = disk'.kind? p
  links : disk.SameLinks disk'
  proper : disk.Proper → disk'.Proper

namespace SameTree

theorem refl (disk : Node α) : disk.SameTree disk := ⟨fun _ => rfl, .refl disk, id⟩

theorem trans (h : n.SameTree n') (h' : n'.SameTree n'') : n.SameTree n'' :=
  ⟨fun p => (h.kinds p).trans (h'.kinds p), h.links.trans h'.links, h'.proper ∘ h.proper⟩

/-! ## Reordered directories -/

/-- Entries that are looked up alike make the same tree. -/
theorem of_lookup {es es' : List (String × Node α)}
    (same : ∀ k, es.lookup k = none ∧ es'.lookup k = none ∨
      ∃ m m', es.lookup k = some m ∧ es'.lookup k = some m' ∧ m.SameTree m')
    (proper : (dir es).Proper → (dir es').Proper) : (dir es).SameTree (dir es') := by
  refine ⟨fun p => ?_, fun p t => ?_, proper⟩
  · cases p with
    | nil => rfl
    | cons k p =>
      rw [kind?, kind?, get?, get?]
      rcases same k with ⟨none, none'⟩ | ⟨m, m', found, found', tree⟩
      · rw [none, none']
      · rw [found, found']
        exact tree.kinds p
  · cases p with
    | nil => exact iff_of_false (by rintro ⟨⟩) (by rintro ⟨⟩)
    | cons k p =>
      rw [get?, get?]
      rcases same k with ⟨none, none'⟩ | ⟨m, m', found, found', tree⟩
      · rw [none, none']
      · rw [found, found']
        exact tree.links p t

theorem of_perm {es es' : List (String × Node α)} (perm : es.Perm es') (h : (dir es).Proper) :
    (dir es).SameTree (dir es') := by
  obtain ⟨distinct, names, below⟩ := proper_dir_iff.1 h
  have distinct' : (es'.map (·.1)).Nodup := (perm.map _).nodup_iff.1 distinct
  refine of_lookup (fun k => ?_) fun _ => proper_dir_iff.2
    ⟨distinct', fun e he => names e (perm.mem_iff.2 he), fun e he => below e (perm.mem_iff.2 he)⟩
  have same (m : Node α) : es.lookup k = some m ↔ es'.lookup k = some m := by
    rw [lookup_eq_some_iff distinct, lookup_eq_some_iff distinct', perm.mem_iff]
  cases found : es.lookup k with
  | none =>
    refine Or.inl ⟨rfl, Option.eq_none_iff_forall_ne_some.2 fun m found' => ?_⟩
    rw [(same m).2 found'] at found
    cases found
  | some m => exact Or.inr ⟨m, m, rfl, (same m).1 found, refl m⟩

theorem of_entry {es es' : List (String × Node α)} {k : String} (tree : n.SameTree n')
    (proper : n.Proper) :
    (dir (es ++ (k, n) :: es')).SameTree (dir (es ++ (k, n') :: es')) := by
  refine of_lookup (fun k' => ?_) fun h => ?_
  · rw [List.lookup_append, List.lookup_append, lookup_cons, lookup_cons]
    cases es.lookup k' with
    | some m => exact Or.inr ⟨m, m, rfl, rfl, refl m⟩
    | none =>
      by_cases here : k' = k
      · rw [if_pos here, if_pos here]
        exact Or.inr ⟨n, n', rfl, rfl, tree⟩
      · rw [if_neg here, if_neg here]
        cases es'.lookup k' with
        | none => exact Or.inl ⟨rfl, rfl⟩
        | some m => exact Or.inr ⟨m, m, rfl, rfl, refl m⟩
  · obtain ⟨distinct, names, below⟩ := proper_dir_iff.1 h
    simp only [List.map_append, List.map_cons, List.forall_mem_append, List.forall_mem_cons]
      at distinct names below
    refine proper_dir_iff.2 ?_
    simp only [List.map_append, List.map_cons, List.forall_mem_append, List.forall_mem_cons]
    exact ⟨distinct, names, below.1, tree.proper proper, below.2.2⟩

end SameTree

/-- **A disk in another order is the same tree.** -/
theorem Reordered.sameTree (h : disk.Reordered disk') (proper : disk.Proper) :
    disk.SameTree disk' := by
  -- Each step keeps the disk proper, as the next one needs.
  induction h with
  | refl n => exact .refl n
  | trans _ _ ih ih' =>
    have tree := ih proper
    exact tree.trans (ih' (tree.proper proper))
  | entries perm => exact .of_perm perm proper
  | @inside n n' es k es' _ ih =>
    have inner : n.Proper := (proper_dir_iff.1 proper).2.2 (k, n) (by simp)
    exact .of_entry (ih inner) inner

/-! ## Paths -/

namespace SameTree

/-- What is at a place of one disk and of the other. -/
theorem get?_cases (h : disk.SameTree disk') (p : Place) :
    (disk.get? p = none ∧ disk'.get? p = none) ∨
    (∃ es es', disk.get? p = some (.dir es) ∧ disk'.get? p = some (.dir es')) ∨
    (∃ t, disk.get? p = some (.link t) ∧ disk'.get? p = some (.link t)) ∨
    ∃ a a', disk.get? p = some (.file a) ∧ disk'.get? p = some (.file a') := by
  have kinds := h.kinds p
  have links := h.links p
  rw [kind?, kind?] at kinds
  cases found : disk.get? p with
  | none =>
    rw [found] at kinds
    exact Or.inl ⟨rfl, Option.map_eq_none_iff.1 kinds.symm⟩
  | some n =>
    rw [found] at kinds
    obtain ⟨n', found', kind⟩ := Option.map_eq_some_iff.1 kinds.symm
    rw [found, found'] at links
    rw [found']
    cases n with
    | dir es =>
      cases n' with
      | dir es' => exact Or.inr (Or.inl ⟨es, es', rfl, rfl⟩)
      | file | link => cases kind
    | link t =>
      obtain rfl := Option.some.inj ((links t).1 rfl)
      exact Or.inr (Or.inr (Or.inl ⟨t, rfl, rfl⟩))
    | file a =>
      cases n' with
      | dir => cases kind
      | link t => cases (links t).2 rfl
      | file a' => exact Or.inr (Or.inr (Or.inr ⟨a, a', rfl, rfl⟩))

theorem exists_dir (h : disk.SameTree disk') {p : Place} {es : List (String × Node α)}
    (found : disk.get? p = some (.dir es)) : ∃ es', disk'.get? p = some (.dir es') :=
  exists_of_isDir (by rw [← h.kinds, kind?, found]; rfl)

/-- **Paths lead to the same places**, or fail for the same reason. -/
theorem followFrom (h : disk.SameTree disk') (budget : Nat) (here : Place) (names : List String) :
    disk'.followFrom budget here names = disk.followFrom budget here names := by
  fun_induction Node.followFrom disk budget here names with
  | case1 => rw [Node.followFrom]
  | case2 _ here _ _ _ found empty ih =>
    obtain ⟨es', found'⟩ := h.exists_dir found
    simp [Node.followFrom, found', empty, ih]
  | case3 _ here _ _ found _ ih =>
    obtain ⟨es', found'⟩ := h.exists_dir found
    simp [Node.followFrom, found', ih]
  | case4 _ here _ _ _ found meant down long =>
    obtain ⟨es', found'⟩ := h.exists_dir found
    simp [Node.followFrom, found', meant, down, long]
  | case5 _ here name _ _ found meant down short missing last
  | case6 _ here name _ _ found meant down short missing last =>
    obtain ⟨es', found'⟩ := h.exists_dir found
    have missing' : disk'.get? (here ++ [name]) = none := by
      rw [← kind?_eq_none_iff, ← h.kinds, kind?_eq_none_iff, missing]
    simp [Node.followFrom, found', meant, down, short, missing', last]
  | case7 here name _ _ found meant down short target link =>
    obtain ⟨es', found'⟩ := h.exists_dir found
    simp [Node.followFrom, found', meant, down, short, (h.links _ _).1 link]
  | case8 here name _ _ found meant down short target link _ ih =>
    obtain ⟨es', found'⟩ := h.exists_dir found
    simp [Node.followFrom, found', meant, down, short, (h.links _ _).1 link, ih]
  | case9 _ here name _ _ found meant down short n other next ih =>
    obtain ⟨es', found'⟩ := h.exists_dir found
    -- What is no link on one disk is none on the other.
    rcases h.get?_cases (here ++ [name]) with
      ⟨none, _⟩ | ⟨_, _, _, next'⟩ | ⟨t, link, _⟩ | ⟨_, _, _, next'⟩
    · rw [none] at next
      cases next
    · simp [Node.followFrom, found', meant, down, short, next', ih]
    · rw [link] at next
      exact (other t (Option.some.inj next).symm).elim
    · simp [Node.followFrom, found', meant, down, short, next', ih]
  | case10 _ here _ _ noDir =>
    rcases h.get?_cases here with ⟨_, there⟩ | ⟨es, _, found, _⟩ | ⟨_, _, there⟩ | ⟨_, _, _, there⟩
    · rw [Node.followFrom, there]
    · exact (noDir es found).elim
    · rw [Node.followFrom, there]
    · rw [Node.followFrom, there]

theorem follow (h : disk.SameTree disk') (cwd : Place) (text : String) :
    disk'.follow cwd text = disk.follow cwd text := by
  rw [Node.follow, Node.follow, h.followFrom]

/-! ## Scans -/

/-- **A scan starts at the same place**, or is refused for the same reason. -/
theorem scanRoot_cases (h : disk.SameTree disk') (cwd : Place) (root : PathText) :
    (∃ e, disk.scanRoot cwd root = .error e ∧ disk'.scanRoot cwd root = .error e) ∨
    ∃ place n n', disk.get? place = some n ∧ disk'.get? place = some n' ∧
      disk.scanRoot cwd root = .ok n ∧ disk'.scanRoot cwd root = .ok n' := by
  simp only [scanRoot, find?, stat, h.follow]
  cases disk.follow cwd root.toText with
  | error e => cases e <;> exact Or.inl ⟨_, rfl, rfl⟩
  | ok place =>
    simp only [bind, Except.bind]
    rcases h.get?_cases place with ⟨there, there'⟩ | ⟨es, es', there, there'⟩ |
      ⟨_, there, there'⟩ | ⟨_, _, there, there'⟩
    · rw [there, there']
      exact Or.inl ⟨_, rfl, rfl⟩
    · exact Or.inr ⟨place, _, _, there, there', by rw [there], by rw [there']⟩
    · rw [there, there']
      exact Or.inl ⟨_, rfl, rfl⟩
    · rw [there, there']
      exact Or.inl ⟨_, rfl, rfl⟩

/-- **A scan finds the same paths**, or is refused for the same reason. -/
theorem scanPaths_cases (h : disk.SameTree disk') (proper : disk.Proper) (cwd : Place)
    (root : PathText) :
    (∃ e, disk.scanPaths cwd root = .error e ∧ disk'.scanPaths cwd root = .error e) ∨
    ∃ found found', disk.scanPaths cwd root = .ok found ∧ disk'.scanPaths cwd root = .ok found' ∧
      ∀ path, path ∈ found' ↔ path ∈ found := by
  rw [scanPaths, scanPaths]
  rcases h.scanRoot_cases cwd root with ⟨e, refused, refused'⟩ | ⟨p, n, n', at', at'', start, start'⟩
  · rw [refused, refused']
    exact Or.inl ⟨e, rfl, rfl⟩
  · rw [start, start']
    refine Or.inr ⟨_, _, rfl, rfl, fun path => ?_⟩
    rw [List.mem_map, List.mem_map]
    refine exists_congr fun q => and_congr_left fun _ => ?_
    rw [mem_scan_iff (proper.of_get? at'), mem_scan_iff ((h.proper proper).of_get? at''),
      ← kind?_of_get? at', ← kind?_of_get? at'', h.kinds]

end SameTree

end TagSearch.Node
