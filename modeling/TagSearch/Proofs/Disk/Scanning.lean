import TagSearch.Proofs.Disk.Order
import TagSearch.Proofs.Disk.Path

/-!
# How a scan goes on

A scan keeps a list of directories that are still to read. It reads one of them, takes note of what
is in it, and adds the directories in it to the list, until none is left. Which directory is read
next, and in which order its entries are met, makes no difference: what was met so far and what lies
below the directories still to read is at any time everything below the scanned one, each once.

* `Node.Below`: what lies below a directory, on no way through a link.
* `Node.Step` is one round of a scan, `Node.Conserves` is what it keeps.
* `Node.acc_start`: a scan comes to an end.
* `Node.Conserves.done`: what was found and entered when it did.
* `Node.scan_finds_everything`: what a scan of a directory finds.
-/

namespace TagSearch.Node

variable {α : Type} {n m : Node α} {p here : Place} {es es' : List (String × Node α)}

/-! ## Below a directory -/

/-- What lies below a directory: its entries, and what lies below those that are directories. Below
a file or a link lies nothing. -/
inductive Below : Node α → Place → Node α → Prop where
  | entry {es : List (String × Node α)} {k : String} {m : Node α} :
    (k, m) ∈ es → Below (.dir es) [k] m
  | deeper {es sub : List (String × Node α)} {k : String} {p : Place} {m : Node α} :
    (k, .dir sub) ∈ es → Below (.dir sub) p m → Below (.dir es) (k :: p) m

theorem mem_iff_get? (distinct : (es.map (·.1)).Nodup) {k : String} :
    (k, m) ∈ es ↔ (dir es).get? [k] = some m := by
  rw [get?, ← lookup_eq_some_iff distinct]
  cases es.lookup k with
  | none => simp
  | some m => rw [Option.bind_some, get?_nil]

/-- What lies below is what is found at a place. -/
theorem below_iff (h : n.Proper) : n.Below p m ↔ p ≠ [] ∧ n.get? p = some m := by
  constructor
  · intro below
    induction below with
    | entry mem => exact ⟨List.cons_ne_nil _ _, (mem_iff_get? (proper_dir_iff.1 h).1).1 mem⟩
    | @deeper es sub k p m mem _ ih =>
      obtain ⟨distinct, _, inner⟩ := proper_dir_iff.1 h
      refine ⟨List.cons_ne_nil _ _, ?_⟩
      rw [← List.singleton_append, get?_append, (mem_iff_get? distinct).1 mem, Option.bind_some]
      exact (ih (inner _ mem)).2
  · rintro ⟨hp, found⟩
    induction p generalizing n with
    | nil => exact (hp rfl).elim
    | cons k p ih =>
      cases n with
      | file | link => cases found
      | dir es =>
        obtain ⟨distinct, _, inner⟩ := proper_dir_iff.1 h
        rw [← List.singleton_append, get?_append] at found
        obtain ⟨m', there, found⟩ := Option.bind_eq_some_iff.1 found
        have mem := (mem_iff_get? distinct).2 there
        cases p with
        | nil =>
          rw [get?_nil, Option.some_inj] at found
          exact found ▸ .entry mem
        | cons k' p =>
          cases m' with
          | dir sub => exact .deeper mem (ih (inner _ mem) (List.cons_ne_nil _ _) found)
          | file | link => cases found

/-! ## Lists of places -/

/-- The entries of a directory at a place. -/
def entriesAt (here : Place) (es : List (String × Node α)) : List (Place × Node α) :=
  es.map fun (k, m) => (here ++ [k], m)

/-- The places of those nodes that are directories. -/
def dirsIn (l : List (Place × Node α)) : List Place := (l.filter (·.2.isDir)).map (·.1)

/-- The places of those nodes that a scan lists. -/
def listedIn (l : List (Place × Node α)) : List Place :=
  (l.filter fun (place, n) => isListed (place.getLast?.getD "") n).map (·.1)

theorem dirsIn_append (l l' : List (Place × Node α)) :
    dirsIn (l ++ l') = dirsIn l ++ dirsIn l' := by
  simp only [dirsIn, List.filter_append, List.map_append]

theorem listedIn_append (l l' : List (Place × Node α)) :
    listedIn (l ++ l') = listedIn l ++ listedIn l' := by
  simp only [listedIn, List.filter_append, List.map_append]

theorem dirsIn_perm {l l' : List (Place × Node α)} (h : l.Perm l') :
    (dirsIn l).Perm (dirsIn l') := (h.filter _).map _

theorem listedIn_perm {l l' : List (Place × Node α)} (h : l.Perm l') :
    (listedIn l).Perm (listedIn l') := (h.filter _).map _

theorem entriesAt_perm (here : Place) (h : es.Perm es') :
    (entriesAt here es).Perm (entriesAt here es') := h.map _

/-- The directories in a directory. -/
theorem dirsIn_entriesAt (here : Place) (es : List (String × Node α)) :
    dirsIn (entriesAt here es) = (subdirs here es).map (·.1) := by
  induction es with
  | nil => rfl
  | cons e es ih =>
    obtain ⟨k, m⟩ := e
    cases m <;> simp_all [dirsIn, entriesAt, subdirs, isDir, entries?]

/-- The directories of a tree: the one at the top, and those below it. -/
def directories (n : Node α) : List Place := [] :: dirsIn n.descendants

/-! ## Everything below a directory -/

/-- Everything below a directory of a stack. -/
def under (d : Place × List (String × Node α)) : List (Place × Node α) :=
  (dir d.2).descendants.map fun (p, m) => (d.1 ++ p, m)

theorem subdirs_eq_map (here : Place) (es : List (String × Node α)) :
    subdirs here es = (subdirs [] es).map fun d => (here ++ d.1, d.2) := by
  rw [subdirs, subdirs, List.map_filterMap]
  refine List.filterMap_congr fun e _ => ?_
  rw [Option.map_map]
  rfl

/-- Below a directory lie its entries, and what lies below the directories in it. -/
theorem under_perm_of_walk (here : Place)
    (h : (walk (subdirs [] es)).Perm ((subdirs [] es).flatMap under)) :
    (under (here, es)).Perm (entriesAt here es ++ (subdirs here es).flatMap under) := by
  have deeper : ((subdirs [] es).flatMap under).map (fun (p, m) => (here ++ p, m)) =
      (subdirs here es).flatMap under := by
    rw [subdirs_eq_map here, List.flatMap_map, List.map_flatMap]
    refine List.flatMap_congr fun d _ => ?_
    simp only [under, List.map_map, Function.comp_def, List.append_assoc]
  rw [under, descendants, walk, List.map_append, List.map_map, List.append_nil, ← deeper]
  exact (List.Perm.refl _).append (h.map _)

open scoped List in
/-- **A walk lists what lies below the directories on its stack.** -/
theorem walk_perm (todo : List (Place × List (String × Node α))) :
    (walk todo).Perm (todo.flatMap under) := by
  induction size : stackSize todo using Nat.strong_induction_on generalizing todo with
  | _ size ih =>
    subst size
    cases todo with
    | nil => rw [walk]; exact .refl _
    | cons d todo =>
      obtain ⟨here, es⟩ := d
      have later : stackSize (subdirs here es ++ todo) < stackSize ((here, es) :: todo) := by
        rw [stackSize_append, stackSize]
        exact Nat.add_lt_add_right (stackSize_subdirs_lt here es) _
      have inner : stackSize (subdirs [] es) < stackSize ((here, es) :: todo) := by
        rw [stackSize]
        exact Nat.lt_add_right _ (stackSize_subdirs_lt [] es)
      rw [walk, List.flatMap_cons]
      have rest := ih _ later _ rfl
      rw [List.flatMap_append] at rest
      calc entriesAt here es ++ walk (subdirs here es ++ todo)
        _ ~ entriesAt here es ++ ((subdirs here es).flatMap under ++ todo.flatMap under) :=
          rest.append_left _
        _ = entriesAt here es ++ (subdirs here es).flatMap under ++ todo.flatMap under :=
          (List.append_assoc _ _ _).symm
        _ ~ under (here, es) ++ todo.flatMap under :=
          (under_perm_of_walk here (ih _ inner _ rfl)).symm.append_right _

theorem under_perm (here : Place) (es : List (String × Node α)) :
    (under (here, es)).Perm (entriesAt here es ++ (subdirs here es).flatMap under) :=
  under_perm_of_walk here (walk_perm _)

/-- Everything below the directory at a place. -/
def belowAt (n : Node α) (here : Place) : List (Place × Node α) :=
  match n.get? here with
  | some (.dir es) => under (here, es)
  | _ => []

theorem belowAt_of_dir (found : n.get? here = some (.dir es)) :
    n.belowAt here = under (here, es) := by
  rw [belowAt, found]

theorem belowAt_top (n : Node α) : n.belowAt [] = n.descendants := by
  rw [belowAt, get?_nil]
  cases n with
  | dir es => simp [under]
  | file | link => rfl

/-- **What lies below a directory**, if its entries are met in some order. -/
theorem belowAt_perm (h : n.Proper) (found : n.get? here = some (.dir es)) (order : es.Perm es') :
    (n.belowAt here).Perm
      (entriesAt here es' ++ (dirsIn (entriesAt here es')).flatMap n.belowAt) := by
  have distinct := (proper_dir_iff.1 (h.of_get? found)).1
  have inner : (dirsIn (entriesAt here es)).flatMap n.belowAt =
      (subdirs here es).flatMap under := by
    rw [dirsIn_entriesAt, List.flatMap_map]
    refine List.flatMap_congr fun d hd => belowAt_of_dir ?_
    obtain ⟨k, mem, place⟩ := mem_subdirs.1 hd
    rw [place, get?_append, found, Option.bind_some, ← mem_iff_get? distinct]
    exact mem
  have met := entriesAt_perm here order
  rw [belowAt_of_dir found]
  refine (under_perm here es).trans (met.append ?_)
  rw [← inner]
  exact (dirsIn_perm met).flatMap_right _

/-! ## Rounds of a scan -/

/-- A scan in progress: the directories that were read, what was found in them, and the directories
that are still to read. -/
structure Progress where
  entered : List Place
  found : List Place
  pending : List Place
  deriving DecidableEq, Repr

/-- A scan that starts. -/
def Progress.start : Progress := ⟨[], [], [[]]⟩

/-- One round of a scan: any of the directories still to read is read, and its entries are met in
any order. -/
inductive Step (n : Node α) : Progress → Progress → Prop where
  | read {s : Progress} {here : Place} {rest : List Place} {es es' : List (String × Node α)} :
    s.pending.Perm (here :: rest) → n.get? here = some (.dir es) → es.Perm es' →
    Step n s ⟨s.entered ++ [here], s.found ++ listedIn (entriesAt here es'),
      dirsIn (entriesAt here es') ++ rest⟩

/-- Some rounds of a scan. -/
abbrev Rounds (n : Node α) : Progress → Progress → Prop := Relation.ReflTransGen n.Step

variable {s s' : Progress} {seen : List (Place × Node α)}

/-- **What a scan keeps**: what was seen so far and what lies below the directories still to read
are together everything below the scanned one, each once. Of what was seen it has found what it
lists, and it has entered the directories, or will. -/
structure Conserves (n : Node α) (s : Progress) (seen : List (Place × Node α)) : Prop where
  whole : (seen ++ s.pending.flatMap n.belowAt).Perm n.descendants
  found : s.found.Perm (listedIn seen)
  dirs : (s.entered ++ s.pending).Perm ([] :: dirsIn seen)

theorem conserves_start (n : Node α) : n.Conserves .start [] where
  whole := by
    rw [Progress.start, List.flatMap_singleton, belowAt_top]
    exact .refl _
  found := .refl _
  dirs := .refl _

open scoped List in
/-- One round keeps it. -/
theorem Conserves.step (h : n.Conserves s seen) (proper : n.Proper) (step : n.Step s s') :
    ∃ seen', n.Conserves s' seen' := by
  obtain ⟨pick, found, order⟩ := step
  rename_i here rest es es'
  refine ⟨seen ++ entriesAt here es', ?_, ?_, ?_⟩
  · calc seen ++ entriesAt here es' ++ (dirsIn (entriesAt here es') ++ rest).flatMap n.belowAt
      _ = seen ++ ((entriesAt here es' ++ (dirsIn (entriesAt here es')).flatMap n.belowAt) ++
            rest.flatMap n.belowAt) := by
        simp only [List.flatMap_append, List.append_assoc]
      _ ~ seen ++ (n.belowAt here ++ rest.flatMap n.belowAt) :=
        ((belowAt_perm proper found order).symm.append_right _).append_left _
      _ ~ seen ++ s.pending.flatMap n.belowAt := (pick.symm.flatMap_right _).append_left _
      _ ~ n.descendants := h.whole
  · rw [listedIn_append]
    exact h.found.append_right _
  · rw [dirsIn_append, ← List.cons_append]
    calc s.entered ++ [here] ++ (dirsIn (entriesAt here es') ++ rest)
      _ ~ s.entered ++ (here :: rest) ++ dirsIn (entriesAt here es') := by
        simp only [List.append_assoc, List.cons_append, List.nil_append]
        exact (List.perm_append_comm.cons _).append_left _
      _ ~ s.entered ++ s.pending ++ dirsIn (entriesAt here es') :=
        (pick.symm.append_left _).append_right _
      _ ~ [] :: dirsIn seen ++ dirsIn (entriesAt here es') := h.dirs.append_right _

/-- All rounds keep it. -/
theorem exists_conserves (proper : n.Proper) (rounds : n.Rounds .start s) :
    ∃ seen, n.Conserves s seen := by
  induction rounds with
  | refl => exact ⟨[], conserves_start n⟩
  | tail _ step ih =>
    obtain ⟨seen, kept⟩ := ih
    exact kept.step proper step

namespace Conserves

/-- The directories still to read are directories of the tree, and so are those that were read. -/
theorem subperm (h : n.Conserves s seen) : (s.entered ++ s.pending).Subperm n.directories := by
  refine h.dirs.subperm.trans ((List.subperm_cons _).2 ?_)
  have part : (dirsIn seen).Subperm (dirsIn seen ++ dirsIn (s.pending.flatMap n.belowAt)) :=
    (List.sublist_append_left _ _).subperm
  rw [← dirsIn_append] at part
  exact part.trans (dirsIn_perm h.whole).subperm

/-- When no directory is left, everything was found and every directory was entered. -/
theorem done (h : n.Conserves s seen) (none : s.pending = []) :
    s.found.Perm n.scan ∧ s.entered.Perm n.directories := by
  obtain ⟨whole, found, dirs⟩ := h
  rw [none, List.flatMap_nil, List.append_nil] at whole
  rw [none, List.append_nil] at dirs
  exact ⟨found.trans (listedIn_perm whole), dirs.trans ((dirsIn_perm whole).cons _)⟩

end Conserves

theorem mem_directories_iff (h : n.Proper) :
    p ∈ n.directories ↔ p = [] ∨ ∃ sub, n.Below p (.dir sub) := by
  rw [directories, List.mem_cons]
  refine or_congr_right ?_
  simp only [below_iff h, ← mem_descendants_iff h, dirsIn, List.mem_map, List.mem_filter]
  constructor
  · rintro ⟨⟨place, m⟩, ⟨mem, dir⟩, rfl⟩
    cases m with
    | dir sub => exact ⟨sub, mem⟩
    | file | link => cases dir
  · rintro ⟨sub, mem⟩
    exact ⟨_, ⟨mem, rfl⟩, rfl⟩

theorem nodup_directories (h : n.Proper) : n.directories.Nodup := by
  have below : (dirsIn n.descendants).Nodup :=
    (nodup_descendants h).sublist (List.filter_sublist.map _)
  refine List.nodup_cons.2 ⟨fun mem => ?_, below⟩
  obtain ⟨⟨_, m⟩, hm, rfl⟩ := List.mem_map.1 mem
  exact ((mem_descendants_iff h).1 (List.mem_of_mem_filter hm)).1 rfl

theorem nodup_scan (h : n.Proper) : n.scan.Nodup :=
  (nodup_descendants h).sublist (List.filter_sublist.map _)

/-! ## A scan comes to an end -/

namespace Conserves

theorem length_entered_le (h : n.Conserves s seen) : s.entered.length ≤ n.directories.length := by
  have := h.subperm.length_le
  rw [List.length_append] at this
  omega

/-- A scan goes on as long as a directory is left. -/
theorem exists_step (h : n.Conserves s seen) (proper : n.Proper) (dir : n.isDir = true)
    (left : s.pending ≠ []) : ∃ s', n.Step s s' := by
  obtain ⟨here, rest, pending⟩ := List.exists_cons_of_ne_nil left
  have mem : here ∈ n.directories :=
    h.subperm.subset (List.mem_append_right _ (pending ▸ List.mem_cons_self))
  obtain ⟨sub, found⟩ : ∃ sub, n.get? here = some (.dir sub) := by
    rcases (mem_directories_iff proper).1 mem with rfl | ⟨sub, below⟩
    · exact exists_of_isDir (by rw [kind?_nil, dir])
    · exact ⟨sub, ((below_iff proper).1 below).2⟩
  exact ⟨_, .read (List.Perm.of_eq pending) found (.refl _)⟩

end Conserves

/-- Every round enters a directory that was not entered before, and there are only so many. -/
theorem acc_of_conserves (proper : n.Proper) (k : Nat) (h : n.Conserves s seen)
    (few : n.directories.length ≤ s.entered.length + k) : Acc (fun s' s => n.Step s s') s := by
  induction k generalizing s seen with
  | zero =>
    refine .intro s fun s' step => ?_
    obtain ⟨seen', kept⟩ := h.step proper step
    have bound := kept.length_entered_le
    obtain ⟨_, _, _⟩ := step
    rw [List.length_append, List.length_singleton] at bound
    omega
  | succ k ih =>
    refine .intro s fun s' step => ?_
    obtain ⟨seen', kept⟩ := h.step proper step
    refine ih kept ?_
    obtain ⟨_, _, _⟩ := step
    rw [List.length_append, List.length_singleton]
    omega

/-- **A scan comes to an end**, whichever directory is read next. -/
theorem acc_start (proper : n.Proper) : Acc (fun s' s => n.Step s s') .start :=
  acc_of_conserves proper n.directories.length (conserves_start n) (Nat.le_add_left _ _)

/-- A walk is a scan that reads the directory on the top of its stack. -/
theorem exists_rounds_walk (n : Node α) (todo : List (Place × List (String × Node α)))
    (places : ∀ d ∈ todo, n.get? d.1 = some (.dir d.2)) (proper : n.Proper)
    (entered found : List Place) :
    ∃ entered', n.Rounds ⟨entered, found, todo.map (·.1)⟩
      ⟨entered', found ++ listedIn (walk todo), []⟩ := by
  fun_induction walk todo generalizing entered found with
  | case1 => exact ⟨entered, by rw [listedIn]; simpa using .refl⟩
  | case2 here es todo ih =>
    obtain ⟨now, later⟩ := List.forall_mem_cons.1 places
    have inner : ∀ d ∈ subdirs here es ++ todo, n.get? d.1 = some (.dir d.2) := by
      refine List.forall_mem_append.2 ⟨fun d hd => ?_, later⟩
      obtain ⟨k, mem, place⟩ := mem_subdirs.1 hd
      rw [place, get?_append, now, Option.bind_some]
      exact (mem_iff_get? (proper_dir_iff.1 (proper.of_get? now)).1).1 mem
    obtain ⟨entered', rest⟩ :=
      ih inner (entered ++ [here]) (found ++ listedIn (entriesAt here es))
    have first : n.Step ⟨entered, found, here :: todo.map (·.1)⟩ _ := .read (.refl _) now (.refl es)
    rw [dirsIn_entriesAt, ← List.map_append] at first
    refine ⟨entered', .head first ?_⟩
    rw [List.append_assoc, ← listedIn_append] at rest
    exact rest

/-! ## What a scan finds -/

theorem exists_place_of_find? {disk : Node α} {cwd : Place} {root : PathText}
    (given : disk.find? cwd root = .ok (some m)) : ∃ place, disk.get? place = some m := by
  obtain ⟨place, _, found⟩ := stat_eq_ok_iff.1 (find?_eq_some_iff.1 given)
  exact ⟨place, found⟩

/-- **A scan finds everything**: what lies below the directory and is no directory, except index
files, each once, and nothing on a way through a link. It enters every directory, whatever its name,
and each once. Whichever directory is read next, and in whatever order the entries of a directory
are met, the scan comes to an end and finds the same. -/
theorem scan_finds_everything {disk : Node α} (proper : disk.Proper) {cwd : Place}
    {root : PathText} (given : disk.find? cwd root = .ok (some (.dir es))) :
    let n := Node.dir es
    (disk.scanPaths cwd root = .ok (n.scan.map joinNames) ∧ (n.scan.map joinNames).Nodup) ∧
    (∀ p, p ∈ n.scan ↔ ∃ m, n.Below p m ∧ m.isDir = false ∧ isReserved p = false) ∧
    (∀ p ∈ n.scan, ∀ q, q <+: p → q ≠ p → n.kind? q = some true) ∧
    ((∀ p, p ∈ n.directories ↔ p = [] ∨ ∃ sub, n.Below p (.dir sub)) ∧ n.directories.Nodup) ∧
    Acc (fun s' s => n.Step s s') .start ∧
    (∀ s, n.Rounds .start s → (s.pending ≠ [] → ∃ s', n.Step s s') ∧
      (s.pending = [] → s.found.Perm n.scan ∧ s.entered.Perm n.directories)) ∧
    (∃ s, n.Rounds .start s ∧ s.pending = [] ∧ s.found = n.scan) ∧
    ∀ n', n.Reordered n' → n'.scan.Perm n.scan := by
  intro n
  obtain ⟨place, found⟩ := exists_place_of_find? given
  have h : n.Proper := proper.of_get? found
  have listed (p : Place) :
      p ∈ n.scan ↔ ∃ m, n.Below p m ∧ m.isDir = false ∧ isReserved p = false := by
    simp only [mem_scan_iff h, below_iff h, kind?, Option.map_eq_some_iff]
    constructor
    · rintro ⟨ne, ⟨m, there, file⟩, free⟩
      exact ⟨m, ⟨ne, there⟩, file, free⟩
    · rintro ⟨m, ⟨ne, there⟩, file, free⟩
      exact ⟨ne, ⟨m, there, file⟩, free⟩
  have kind {p : Place} (mem : p ∈ n.scan) : n.kind? p = some false := ((mem_scan_iff h).1 mem).2.1
  refine ⟨⟨?_, ?_⟩, listed, ?_, ⟨fun p => mem_directories_iff h, nodup_directories h⟩, acc_start h,
    fun s rounds => ?_, ?_, fun n' order => ?_⟩
  · rw [scanPaths, scanRoot, given]
    rfl
  · refine (nodup_scan h).map_on fun p hp q hq same => ?_
    exact joinNames_injective (fun k mem => (h.isName (kind hp) k mem).isPart)
      (fun k mem => (h.isName (kind hq) k mem).isPart) same
  · rintro p mem q ⟨rest, rfl⟩ ne
    exact kind?_of_below (kind mem) fun none => ne (by rw [none, List.append_nil])
  · obtain ⟨seen, kept⟩ := exists_conserves h rounds
    exact ⟨kept.exists_step h rfl, kept.done⟩
  · have top : ∀ d ∈ [(([] : Place), es)], n.get? d.1 = some (.dir d.2) := by
      intro d hd
      rw [List.mem_singleton.1 hd, get?_nil]
    obtain ⟨entered, rounds⟩ := exists_rounds_walk n _ top h [] []
    exact ⟨_, rounds, rfl, rfl⟩
  · have tree := order.sameTree h
    have h' := tree.proper h
    refine (List.perm_ext_iff_of_nodup (nodup_scan h') (nodup_scan h)).2 fun p => ?_
    rw [mem_scan_iff h', mem_scan_iff h, tree.kinds]

/-- The entries of a directory: links in a cycle, to nothing, to a directory outside and to the one
around, an index file, and a directory with the name of one. -/
def tangledEntries : List (String × Node Unit) :=
  [(".tag-commander.db", .file ()),
    (".tag-commander.db-d", .dir [("a", .file ()), ("back", .link "..")]),
    ("loop", .link "loop"), ("out", .link "../out"), ("void", .link "nothing")]

/-- A disk with this directory and the one outside. -/
def tangledDisk : Node Unit :=
  .dir [("out", .dir [("far", .file ())]), ("r", .dir tangledEntries)]

theorem proper_tangledDisk : tangledDisk.Proper := by
  simp [tangledDisk, tangledEntries, proper_dir_iff, IsName]

/-- The links are found, and none is followed. -/
theorem scan_finds_everything_tangled :
    let root := PathText.ofPlace ["r"]
    let n := Node.dir tangledEntries
    (tangledDisk.Proper ∧ tangledDisk.find? [] root = .ok (some n)) ∧
    tangledDisk.scanPaths [] root =
      .ok ["loop", "out", "void", ".tag-commander.db-d/a", ".tag-commander.db-d/back"] ∧
    n.directories = [[], [".tag-commander.db-d"]] ∧ Acc (fun s' s => n.Step s s') .start ∧
    ∀ s, n.Rounds .start s → s.pending = [] →
      s.found.Perm [["loop"], ["out"], ["void"], [".tag-commander.db-d", "a"],
        [".tag-commander.db-d", "back"]] := by
  intro root n
  have given : tangledDisk.find? [] root = .ok (some n) := by cbv
  obtain ⟨⟨texts, _⟩, _, _, _, ends, rounds, _⟩ := scan_finds_everything proper_tangledDisk given
  refine ⟨⟨proper_tangledDisk, given⟩, texts.trans (by cbv), by cbv, ends, fun s run left => ?_⟩
  refine ((rounds s run).2 left).1.trans (.of_eq ?_)
  cbv

end TagSearch.Node
