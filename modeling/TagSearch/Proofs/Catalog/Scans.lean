import Mathlib.Data.Finset.Card
import TagSearch.Proofs.Catalog.Present
import TagSearch.Proofs.Catalog.Transactions
import TagSearch.Proofs.Disk.Order

/-!
# Scans

A scan of a directory brings the tables in line with the paths that it finds, and leaves the rest as
it was. The same scan once more changes nothing, and the order in which the entries of directories
are listed does not show.

* `Catalog.InLine` says of two tables that one is the other in line with the paths found.
* `Catalog.inLine_scanned`: tables after a scan.
* `Catalog.InLine.sync_eq`: another scan that finds the same paths.
* `Catalog.sync_congr`: only which paths are found matters.
* `Session.scan_brings_in_line`: scans of a directory on a disk.
-/

namespace TagSearch

namespace Catalog

variable {c d : Catalog} {found found' : List String} {prune : Bool}

/-- The tables `d` are the tables `c` in line with the paths that a scan found. -/
structure InLine (c d : Catalog) (found : List String) (prune : Bool) : Prop where
  /-- A file keeps its number and its path and is present if it is found; if it is not, the scan may
  prune it. New paths are recorded as present, in increasing order under the next numbers. -/
  files : ∃ new : List String, new.Pairwise (· < ·) ∧
    (∀ path, path ∈ new ↔ path ∈ found ∧ c.records path = false) ∧
    d.files = (if prune then c.files.filter fun f => decide (f.path ∈ found) else c.files).map
        (fun f => { f with present := decide (f.path ∈ found) }) ++
      numbered ((c.files.map (·.id)).max?.getD 0 + 1) new
  /-- The tags stay, except those of files that are pruned. -/
  tags : d.tags =
    if prune then c.tags.filter fun t => decide (∃ f ∈ c.files, f.id = t.1 ∧ f.path ∈ found)
    else c.tags

/-! ## Tables after a scan -/

theorem nextId_eq_max (c : Catalog) : c.nextId = (c.files.map (·.id)).max?.getD 0 + 1 := by
  rw [nextId]
  cases c.files.map (·.id) <;> rfl

theorem filterMap_meet_scanFate (files : List FileRecord) (found : List String) (prune : Bool) :
    files.filterMap (·.meet (scanFate found prune)) =
      (if prune then files.filter fun f => decide (f.path ∈ found) else files).map
        fun f => { f with present := decide (f.path ∈ found) } := by
  cases prune with
  | false =>
    rw [if_neg Bool.false_ne_true, ← List.filterMap_eq_map]
    refine List.filterMap_congr fun f _ => ?_
    by_cases mem : f.path ∈ found <;> simp [FileRecord.meet, scanFate, FileRecord.standing, mem]
  | true =>
    rw [if_pos rfl, ← List.filterMap_eq_map, List.filterMap_filter]
    refine List.filterMap_congr fun f _ => ?_
    by_cases mem : f.path ∈ found <;> simp [FileRecord.meet, scanFate, FileRecord.standing, mem]

/-- **A scan brings tables in line** with the paths that it finds. -/
theorem inLine_scanned (h : c.Consistent) (root : String) (found : List String) (prune : Bool) :
    c.InLine (Session.scanned c root found prune) found prune := by
  have turns := turns_sync h found prune
  refine ⟨⟨c.newPaths found, pairwise_sort_of_nodup (nodup_eraseDups _), fun path => ?_, ?_⟩, ?_⟩
  · exact mem_newPaths.trans (and_congr_right fun _ => ⟨records_eq_false, find?_of_unknown⟩)
  · rw [← nextId_eq_max, ← filterMap_meet_scanFate]
    exact turns.files
  · refine turns.tags.trans ?_
    cases prune with
    | false =>
      refine List.filter_eq_self.2 fun t ht => ?_
      obtain ⟨f, hf, owner⟩ := h.tags_recorded t ht
      refine List.any_eq_true.2 ⟨f, hf, ?_⟩
      rw [scanFate]
      split <;> simp [owner]
    | true =>
      refine List.filter_congr fun t _ => ?_
      rw [Bool.eq_iff_iff, keeps, List.any_eq_true, decide_eq_true_iff]
      refine exists_congr fun f => and_congr_right fun _ => ?_
      by_cases mem : f.path ∈ found <;> simp [scanFate, FileRecord.standing, mem]

/-- As many files are present after a scan as it finds paths. -/
theorem presentCount_sync (h : c.Consistent) (found : List String) (prune : Bool) :
    (c.sync found prune).presentCount = found.toFinset.card := by
  have distinct : (c.sync found prune).presentPaths.Nodup :=
    (h.sync found prune).paths_distinct.sublist (List.filter_sublist.map _)
  have same : (c.sync found prune).presentPaths.toFinset = found.toFinset := by
    ext path
    rw [List.mem_toFinset, List.mem_toFinset, mem_presentPaths_sync h]
  rw [← same, List.toFinset_card_of_nodup distinct, presentPaths, List.length_map, presentCount,
    List.countP_eq_length_filter]

/-! ## The same scan once more -/

namespace InLine

variable {f : FileRecord} {path : String}

theorem of_mem (h : c.InLine d found prune) (hf : f ∈ d.files) :
    f.present = decide (f.path ∈ found) ∧ (prune = true → f.path ∈ found) := by
  obtain ⟨new, _, mem_new, files⟩ := h.files
  rw [files, List.mem_append, List.mem_map] at hf
  rcases hf with ⟨g, hg, rfl⟩ | added
  · refine ⟨rfl, fun prunes => ?_⟩
    rw [if_pos prunes, List.mem_filter] at hg
    exact of_decide_eq_true hg.2
  · obtain ⟨path, present, _⟩ := mem_numbered added
    have mem := ((mem_new _).1 path).1
    exact ⟨present.trans (decide_eq_true mem).symm, fun _ => mem⟩

/-- Every path found is recorded. -/
theorem records (h : c.InLine d found prune) (mem : path ∈ found) : d.records path = true := by
  obtain ⟨new, _, mem_new, files⟩ := h.files
  rw [records_iff, files]
  cases known : c.records path with
  | false =>
    have added := (mem_new path).2 ⟨mem, known⟩
    rw [← map_path_numbered _ new] at added
    obtain ⟨f, hf, here⟩ := List.mem_map.1 added
    exact ⟨f, List.mem_append_right _ hf, here⟩
  | true =>
    obtain ⟨f, hf, rfl⟩ := records_iff.1 known
    refine ⟨_, List.mem_append_left _ (List.mem_map_of_mem (a := f) ?_), rfl⟩
    split
    · exact List.mem_filter.2 ⟨hf, decide_eq_true mem⟩
    · exact hf

/-- **Tables that are in line stay as they are.** -/
theorem sync_eq (h : c.InLine d found prune) : d.sync found prune = d := by
  have nothingNew : d.newPaths found = [] := by
    refine List.eq_nil_iff_forall_not_mem.2 fun path mem => ?_
    obtain ⟨mem, unknown⟩ := mem_newPaths.1 mem
    have known := h.records mem
    rw [records_eq_false unknown] at known
    cases known
  -- No row is new, so it is left that each row is as a scan makes it.
  rw [sync, nothingNew, List.foldl_nil]
  cases prune with
  | false =>
    have still : ∀ f ∈ d.files, { f with present := found.contains f.path } = f := fun f hf => by
      rw [List.contains_eq_mem, ← (h.of_mem hf).1]
    rw [if_neg Bool.false_ne_true, List.map_congr_left still, List.map_id']
  | true =>
    have all : ∀ f ∈ d.files, found.contains f.path = true := fun f hf =>
      List.contains_iff_mem.2 ((h.of_mem hf).2 rfl)
    have still : ∀ f ∈ d.files, { f with present := true } = f := fun f hf => by
      rw [← decide_eq_true ((h.of_mem hf).2 rfl), ← (h.of_mem hf).1]
    have gone : d.files.filter (fun f => !found.contains f.path) = [] :=
      List.filter_eq_nil_iff.2 fun f hf => by simpa using all f hf
    dsimp only
    rw [if_pos rfl, List.filter_eq_self.2 all, gone, List.map_congr_left still, List.map_id',
      List.map_nil, List.filter_eq_self.2 fun t _ => by rw [List.contains_nil]; rfl]

end InLine

/-! ## The paths found -/

/-- A scan depends on which paths are found only. -/
theorem sync_congr (same : ∀ path, path ∈ found' ↔ path ∈ found) (c : Catalog) (prune : Bool) :
    c.sync found' prune = c.sync found prune := by
  have new : c.newPaths found' = c.newPaths found := by
    refine sort_eq_of_perm ((List.perm_ext_iff_of_nodup (nodup_eraseDups _)
      (nodup_eraseDups _)).2 fun path => ?_)
    rw [List.mem_eraseDups, List.mem_eraseDups, List.mem_filter, List.mem_filter, same]
  have contains : ∀ path, found'.contains path = found.contains path := fun path => by
    rw [List.contains_eq_mem, List.contains_eq_mem, decide_eq_decide.2 (same path)]
  simp only [sync, new, contains]

end Catalog

namespace Node

variable {α : Type} {disk : Node α} {cwd : Place} {root : PathText}

/-- A scan is refused where there is no directory. -/
theorem scanPaths_of_noDir (noDir : ∀ es, disk.find? cwd root ≠ .ok (some (.dir es))) :
    ∃ e, disk.scanPaths cwd root = .error e ∧
      ∀ node, disk.find? cwd root = .ok node → e = .notDirectory root.toText := by
  rw [scanPaths, scanRoot]
  cases found : disk.find? cwd root with
  | error fault => exact ⟨_, rfl, fun node h => by cases h⟩
  | ok node =>
    cases node with
    | none => exact ⟨_, rfl, fun _ _ => rfl⟩
    | some n =>
      cases n with
      | dir es => exact (noDir es found).elim
      | file | link => exact ⟨_, rfl, fun _ _ => rfl⟩

end Node

namespace Session

/-- A scan of tables that were scanned finds nothing to change. -/
theorem scanned_scanned {c : Catalog} (h : c.Consistent) (root : String) (found : List String)
    (prune : Bool) :
    scanned (scanned c root found prune) root found prune = scanned c root found prune := by
  rw [scanned, (Catalog.inLine_scanned h root found prune).sync_eq]
  rfl

theorem scanned_congr {found found' : List String} (same : ∀ path, path ∈ found' ↔ path ∈ found)
    (c : Catalog) (root : String) (prune : Bool) :
    scanned c root found' prune = scanned c root found prune := by
  rw [scanned, scanned, Catalog.sync_congr same]

theorem presentCount_scanned {c : Catalog} (h : c.Consistent) (root : String)
    (found : List String) (prune : Bool) :
    (scanned c root found prune).presentCount = found.toFinset.card :=
  Catalog.presentCount_sync h found prune

theorem scan_eq {s : Session} {disk : Node Content} {cwd : Place} {root : PathText}
    {found : List String} (h : s.catalog.Consistent) (listed : disk.scanPaths cwd root = .ok found)
    (prune : Bool) :
    s.scan disk cwd root prune =
      .ok (⟨scanned s.catalog root.toText found prune, scanned s.catalog root.toText found prune⟩,
        found.toFinset.card) := by
  rw [scan, listed, ← presentCount_scanned h root.toText found prune]
  rfl

/-- **A scan brings the index in line with a directory and touches nothing else.** If there is a
directory of the name, the tables are in line with the paths found and committed, the token table
mirrors the tags, the directory and the number of paths found are kept and the number is returned;
and the same scan once more leaves the session as it is. If there is none, nothing changes. The
order in which the entries of directories are listed does not matter. Commands build an index by
such a scan. -/
theorem scan_brings_in_line {s : Session} (h : s.catalog.Consistent) (disk : Node Content)
    (cwd : Place) (root : PathText) (prune : Bool) :
    (∀ es, disk.find? cwd root = .ok (some (.dir es)) →
      ∃ found d, disk.scanPaths cwd root = .ok found ∧ s.catalog.InLine d found prune ∧
        d.Mirrored ∧ d.state = some ⟨root.toText, found.toFinset.card⟩ ∧
        s.scan disk cwd root prune = .ok (⟨d, d⟩, found.toFinset.card) ∧
        scan ⟨d, d⟩ disk cwd root prune = .ok (⟨d, d⟩, found.toFinset.card)) ∧
    ((∀ es, disk.find? cwd root ≠ .ok (some (.dir es))) →
      ∃ e, (IndexCall.scan disk cwd root prune).perform s = (s, .error e) ∧
        ∀ node, disk.find? cwd root = .ok node → e = .notDirectory root.toText) ∧
    (disk.Proper → ∀ disk', disk.Reordered disk' →
      s.scan disk' cwd root prune = s.scan disk cwd root prune) ∧
    ∀ (c : CommandContext) (i : IndexSession) (r : Report),
      (c.build i root prune r).map (fun (i, count, _) => (i.session, count)) =
        i.session.scan i.host.disk i.host.cwd root prune := by
  refine ⟨fun es dir => ?_, fun noDir => ?_, fun proper disk' reordered => ?_,
    fun c i r => map_build c i root prune r⟩
  · obtain ⟨found, listed⟩ : ∃ found, disk.scanPaths cwd root = .ok found := by
      rw [Node.scanPaths, Node.scanRoot, dir]
      exact ⟨_, rfl⟩
    refine ⟨found, scanned s.catalog root.toText found prune, listed,
      Catalog.inLine_scanned h root.toText found prune,
      Catalog.mirrored_scanned s.catalog root.toText found prune, ?_, scan_eq h listed prune, ?_⟩
    · rw [← presentCount_scanned h root.toText found prune]
      rfl
    · rw [scan_eq (h.scanned root.toText found prune) listed, scanned_scanned h]
  · obtain ⟨e, refused, kind⟩ := Node.scanPaths_of_noDir noDir
    refine ⟨e, ?_, kind⟩
    rw [IndexCall.perform, scan, refused]
    rfl
  · rcases (reordered.sameTree proper).scanPaths_cases proper cwd root with
      ⟨e, refused, refused'⟩ | ⟨found, found', listed, listed', same⟩
    · rw [scan, scan, refused, refused']
    · rw [scan_eq h listed, scan_eq h listed', scanned_congr same]
      have members : found'.toFinset = found.toFinset := by
        ext path
        rw [List.mem_toFinset, List.mem_toFinset, same]
      rw [members]

/-- A directory with files and a directory in it. -/
def listedDisk : Node Content :=
  .dir [("r", .dir [("z", .file (.text "")), ("d", .dir [("c", .file (.text "")),
    ("b", .file (.text ""))]), ("a", .file (.text ""))])]

/-- The same directories, listed the other way round. -/
def turnedDisk : Node Content :=
  .dir [("r", .dir [("a", .file (.text "")), ("d", .dir [("b", .file (.text "")),
    ("c", .file (.text ""))]), ("z", .file (.text ""))])]

theorem reordered_turnedDisk : listedDisk.Reordered turnedDisk := by
  refine .inside [] "r" [] (.trans ?_ (.entries (List.reverse_perm _)))
  exact .inside [("z", _)] "d" [("a", _)] (.entries (.swap _ _ _))

/-- A missing file is found again, a tagged one is pruned, and the new ones get the next numbers. -/
theorem scan_brings_in_line_pruned :
    let s := fresh.run [.place "a", .place "old", .addTags ["a", "old"] ["x"], .markMissing "a"]
    let root := PathText.ofPlace ["r"]
    (s.catalog.Consistent ∧ listedDisk.Proper ∧ listedDisk.Reordered turnedDisk) ∧
    (∃ d, s.catalog.InLine d ["z", "a", "d/c", "d/b"] true ∧
      s.scan turnedDisk [] root true = .ok (⟨d, d⟩, 4) ∧
      scan ⟨d, d⟩ listedDisk [] root true = .ok (⟨d, d⟩, 4) ∧ d.tags = [(1, "x")] ∧
      d.files = [⟨1, "a", true⟩, ⟨3, "d/b", true⟩, ⟨4, "d/c", true⟩, ⟨5, "z", true⟩]) ∧
    (IndexCall.scan listedDisk [] (root.below ["a"]) true).perform s =
      (s, .error (.notDirectory "/r/a")) := by
  intro s root
  have consistent : s.catalog.Consistent := (consistent_run _).1
  have proper : listedDisk.Proper := by simp [listedDisk, Node.proper_dir_iff, Node.IsName]
  have listed : listedDisk.scanPaths [] root = .ok ["z", "a", "d/c", "d/b"] := by cbv
  have file : listedDisk.find? [] (root.below ["a"]) = .ok (some (.file (.text ""))) := by cbv
  refine ⟨⟨consistent, proper, reordered_turnedDisk⟩, ?_, ?_⟩
  · obtain ⟨there, _, turned, _⟩ := scan_brings_in_line consistent listedDisk [] root true
    obtain ⟨found, d, listed', inLine, _, _, scanned, again⟩ := there _ (by cbv)
    obtain rfl := Except.ok.inj (listed.symm.trans listed')
    have tables := Except.ok.inj ((scan_eq consistent listed true).symm.trans scanned)
    obtain rfl : _ = d := congrArg (·.1.catalog) tables
    exact ⟨_, inLine, (turned proper _ reordered_turnedDisk).trans scanned, again, by cbv, by cbv⟩
  · have absent : ∀ es, listedDisk.find? [] (root.below ["a"]) ≠ .ok (some (.dir es)) := by
      rw [file]
      rintro es ⟨⟩
    obtain ⟨e, refused, kind⟩ :=
      (scan_brings_in_line consistent listedDisk [] (root.below ["a"]) true).2.1 absent
    rw [refused, kind _ file]
    cbv

end Session

end TagSearch
