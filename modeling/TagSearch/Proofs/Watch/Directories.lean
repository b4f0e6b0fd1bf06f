import TagSearch.Proofs.Catalog.Moves
import TagSearch.Proofs.Watch.Agreement

/-!
# Directories that appear and go

A directory that appears below the watched one brings the files that a scan finds in it, and one
that goes takes the recorded files in it. In both cases the watch and the scan mean the same files,
wherever the directory lies and whatever is in it.

There is one exception. The watch tells an index file by its name alone, and the scan does not take
a directory for one. Where a directory has the name of an index file the watch does nothing.

* `Appears` and `Goes`: the events about a directory.
* `exists_changes_appears`: the changes that an appearance brings.
* `Catalog.files_applyChanges_dirDeleted`: what the change of a deletion does to the records.
* `directory_events_follow_scans`: both, for all directories below a watched one.
-/

namespace TagSearch

variable {α : Type} {disk : Node α} {cwd here : Place} {root dir : PathText} {e : DiskEvent}
  {names : List String} {path : String}

/-! ## Events about directories -/

/-- The events by which a directory appears: it is created, or it moves there from outside the
watched directory. -/
inductive Appears (root dir : PathText) : DiskEvent → Prop where
  | created {src dest : String} (named : PathText.ofText src = dir) :
    Appears root dir ⟨.created, src, dest, true⟩
  | movedIn {src dest : String} (outside : (PathText.ofText src).relativeTo? root = none)
    (named : PathText.ofText dest = dir) : Appears root dir ⟨.moved, src, dest, true⟩

/-- The events by which a directory goes: it is deleted, or it moves to outside the watched
directory. -/
inductive Goes (root dir : PathText) : DiskEvent → Prop where
  | deleted {src dest : String} (named : PathText.ofText src = dir) :
    Goes root dir ⟨.deleted, src, dest, true⟩
  | movedOut {src dest : String} (named : PathText.ofText src = dir)
    (outside : (PathText.ofText dest).relativeTo? root = none) :
    Goes root dir ⟨.moved, src, dest, true⟩

theorem queue_dispatch (queue : List Change) :
    (Watch.dispatch ⟨root, queue⟩ disk cwd e).queue = queue ++ Watch.changes disk cwd root e := by
  rw [Watch.dispatch_eq]

theorem relative?_of_free (hne : names ≠ []) (free : Node.isReserved names = false) :
    Watch.relative? root (root.below names) = some (joinNames names) := by
  rw [relative?_below root hne, free]
  rfl

theorem Appears.appearing?_eq (h : Appears root dir e) :
    Watch.appearing? root e = (Watch.relative? root dir).map fun _ => dir := by
  cases h with
  | created named =>
    subst named
    exact appearing?_created
  | movedIn outside named =>
    subst named
    rw [appearing?_moved_of_left (relative?_of_outside outside), appearing?_created]

theorem Appears.changes_eq (h : Appears root dir e) :
    Watch.changes disk cwd root e =
      if (Watch.relative? root dir).isSome then Watch.appeared disk cwd root dir else [] := by
  cases h with
  | created named =>
    subst named
    exact changes_created_dir
  | movedIn outside named =>
    subst named
    rw [changes_moved_of_left (relative?_of_outside outside), changes_created_dir]

theorem Goes.appearing?_eq (h : Goes root dir e) : Watch.appearing? root e = none := by
  cases h with
  | deleted => rfl
  | @movedOut src _ _ outside =>
    simp only [Watch.appearing?, relative?_of_outside outside]
    cases Watch.relative? root (.ofText src) <;> rfl

theorem Goes.changes_eq (h : Goes root dir e) :
    Watch.changes disk cwd root e =
      (Watch.relative? root dir).toList.map fun p => ⟨.dirDeleted, p, none⟩ := by
  cases h with
  | deleted named =>
    subst named
    exact changes_deleted
  | movedOut named outside =>
    subst named
    rw [changes_moved_of_right (relative?_of_outside outside), changes_deleted]
    rfl

/-! ## A directory that appears -/

/-- What is listed at a directory is what is listed and lies in it. -/
theorem listedAt_iff_of_isDir (w : Scannable cwd here root disk) (hne : names ≠ [])
    (isDir : disk.kind? (here ++ names) = some true) :
    ListedAt here disk (here ++ names) path ↔
      Listed here disk path ∧ Catalog.LiesIn (joinNames names) path := by
  have nulFree : NulFree (joinNames names) := nul_not_mem_joinNames hne (w.isName isDir)
  have apart := @listedApart_iff_of_isDir _ _ _ _ _ path w _ hne isDir
  rw [Catalog.isBelow_iff nulFree] at apart
  constructor
  · intro inside
    refine ⟨(listed_iff _).2 (Or.inr inside), ?_⟩
    obtain ⟨q, shown, file⟩ := inside
    have hq := ne_nil_of_file isDir file
    obtain ⟨-, rfl⟩ := (shown?_append_iff here names hq).1 shown
    exact Catalog.liesIn_iff.2 ⟨(joinNames q).toList, by
      rw [toList_joinNames_append hne hq, List.append_assoc, List.singleton_append]⟩
  · rintro ⟨listed, lies⟩
    rcases (listed_iff (here ++ names)).1 listed with outside | inside
    · exact absurd lies (apart.1 outside).2
    · exact inside

/-- **The changes that an appearance brings**: one for each file that a scan finds in the
directory. -/
theorem exists_changes_appears (w : Scannable cwd here root disk)
    (rooted : ∀ name ∈ root.parts, IsPart name) {found : List String}
    (scanned : disk.scanPaths cwd root = .ok found) (hne : names ≠ [])
    (isDir : disk.kind? (here ++ names) = some true)
    (fits : isPathTooLong (root.below names).toText = false)
    (free : Node.isReserved names = false) (h : Appears root (root.below names) e) :
    ∃ created : List String, created.Perm (found.filter (Catalog.LiesIn (joinNames names) ·)) ∧
      Watch.changes disk cwd root e = created.map fun p => ⟨.created, p, none⟩ := by
  obtain ⟨created, appeared, distinct, mem⟩ := exists_appeared w hne fits isDir rooted
  obtain ⟨found', scanned', distinct', listed⟩ := w.exists_scanPaths rooted
  obtain rfl := Except.ok.inj (scanned.symm.trans scanned')
  refine ⟨created, (List.perm_ext_iff_of_nodup distinct (distinct'.filter _)).2 fun p => ?_, ?_⟩
  · rw [mem, listedAt_iff_of_isDir w hne isDir, List.mem_filter, listed, decide_eq_true_eq]
  · rw [h.changes_eq, relative?_of_free hne free, Option.isSome_some, if_pos rfl, appeared]

/-- A directory with a path that is too long cannot be scanned. -/
theorem scanPaths_tooLong (long : isPathTooLong dir.toText = true) :
    disk.scanPaths cwd dir = .error (.unknown ⟨.nameTooLong, dir⟩) := by
  have full : dir.toText ≠ "" := by
    intro empty
    rw [empty] at long
    exact absurd long (by decide)
  have reached : disk.follow cwd dir.toText = .error .nameTooLong := by
    rw [Node.follow, if_neg full, if_pos long]
  simp only [Node.scanPaths, Node.scanRoot, Node.find?, Node.stat, reached]
  rfl

/-- The only directories that appear and cannot be scanned are those with a path that is too
long. -/
theorem Appears.fault?_eq (w : Scannable cwd here root disk)
    (rooted : ∀ name ∈ root.parts, IsPart name) (hne : names ≠ [])
    (isDir : disk.kind? (here ++ names) = some true) (free : Node.isReserved names = false)
    (h : Appears root (root.below names) e) (queue : List Change) :
    Watch.fault? ⟨root, queue⟩ disk cwd e =
      if isPathTooLong (root.below names).toText then some ⟨.nameTooLong, root.below names⟩
      else none := by
  unfold Watch.fault?
  rw [h.appearing?_eq, relative?_of_free hne free, Option.map_some, Option.bind_some]
  split_ifs with long
  · rw [scanPaths_tooLong long]
  · have fits : isPathTooLong (root.below names).toText = false := by simpa using long
    obtain ⟨found, scanned, _⟩ := w.scanPaths_below rooted (fun _ => fits) isDir
    rw [scanned]

theorem Appears.changes_eq_nil_of_tooLong (long : isPathTooLong dir.toText = true)
    (h : Appears root dir e) : Watch.changes disk cwd root e = [] := by
  rw [h.changes_eq, Watch.appeared, scanPaths_tooLong long]
  split <;> rfl

/-! ## A directory that goes -/

/-- **The change of a deletion** records the present files in the directory as missing. -/
theorem Catalog.files_applyChanges_dirDeleted (c : Catalog) {dir : String} (nulFree : NulFree dir) :
    (c.applyChanges [⟨.dirDeleted, dir, none⟩]).1.files =
        c.files.map (fun f =>
          if f.present ∧ LiesIn dir f.path then { f with present := false } else f) ∧
      (c.applyChanges [⟨.dirDeleted, dir, none⟩]).1.tags = c.tags := by
  have rows : (c.markDirMissing dir).files = c.files.map fun f =>
      if f.present ∧ LiesIn dir f.path then { f with present := false } else f := by
    unfold markDirMissing
    refine List.map_congr_left fun f _ => ?_
    simp only [isBelow_iff nulFree]
    obtain ⟨id, path, present⟩ := f
    cases present <;> simp
  unfold applyChanges
  dsimp only
  split
  · exact ⟨rows, rfl⟩
  · exact ⟨rows, rfl⟩

theorem Session.rows_applyChanges_dirDeleted (s : Session) {dir : String} (nulFree : NulFree dir) :
    (s.applyChanges [⟨.dirDeleted, dir, none⟩]).1.catalog.files =
        s.catalog.files.map (fun f =>
          if f.present ∧ Catalog.LiesIn dir f.path then { f with present := false } else f) ∧
      (s.applyChanges [⟨.dirDeleted, dir, none⟩]).1.catalog.tags = s.catalog.tags := by
  rw [catalog_applyChanges]
  exact s.catalog.files_applyChanges_dirDeleted nulFree

/-! ## A directory with the name of an index file -/

/-- Nothing comes of a directory with the name of an index file. -/
theorem ignored_of_reserved (disk : Node α) (cwd : Place) (hne : names ≠ [])
    (reserved : Node.isReserved names = true)
    (h : Appears root (root.below names) e ∨ Goes root (root.below names) e) :
    Watch.appearing? root e = none ∧ Watch.changes disk cwd root e = [] := by
  have hidden : Watch.relative? root (root.below names) = none := by
    rw [relative?_below root hne, reserved]
    rfl
  rcases h with appears | goes
  · rw [appears.appearing?_eq, appears.changes_eq, hidden]
    exact ⟨rfl, rfl⟩
  · rw [goes.appearing?_eq, goes.changes_eq, hidden]
    exact ⟨rfl, rfl⟩

/-! ## All directories -/

/-- **Events about directories agree with scans.** Take any directory that can be scanned, and any
place below it. If a directory appears there, one creation is queued for each file that a scan finds
and that lies in it; if one goes from there, one change is queued, which records the present files
that lie in it as missing and does nothing else. If the directory has the name of an index file,
nothing is queued, whatever a scan finds in it. -/
theorem directory_events_follow_scans (rootText : String)
    (w : Scannable cwd here (.ofText rootText) disk) :
    let root := PathText.ofText rootText
    ∃ found, disk.scanPaths cwd root = .ok found ∧ found.Nodup ∧
      ∀ names ≠ [], ∀ (queue : List Change) (e : DiskEvent),
        let dir := root.below names
        let fault? := Watch.fault? ⟨root, queue⟩ disk cwd e
        let queue' := (Watch.dispatch ⟨root, queue⟩ disk cwd e).queue
        (disk.kind? (here ++ names) = some true → Appears root dir e →
          Node.isReserved names = false →
            (isPathTooLong dir.toText = false → fault? = none ∧
              ∃ created : List String,
                created.Perm (found.filter (Catalog.LiesIn (joinNames names) ·)) ∧
                queue' = queue ++ created.map fun p => ⟨.created, p, none⟩) ∧
            (isPathTooLong dir.toText = true →
              fault? = some ⟨.nameTooLong, dir⟩ ∧ queue' = queue)) ∧
        ((∀ name ∈ names, Node.IsName name) → Goes root dir e → Node.isReserved names = false →
          fault? = none ∧ queue' = queue ++ [⟨.dirDeleted, joinNames names, none⟩] ∧
          ∀ s : Session,
            let c := (s.applyChanges [⟨.dirDeleted, joinNames names, none⟩]).1.catalog
            c.files = s.catalog.files.map (fun f =>
              if f.present ∧ Catalog.LiesIn (joinNames names) f.path then
                { f with present := false }
              else f) ∧
            c.tags = s.catalog.tags) ∧
        (Appears root dir e ∨ Goes root dir e → Node.isReserved names = true →
          fault? = none ∧ queue' = queue) := by
  intro root
  have rooted : ∀ name ∈ root.parts, IsPart name := fun _ => PathText.isPart_of_mem_ofText
  obtain ⟨found, scanned, distinct, _⟩ := w.exists_scanPaths rooted
  refine ⟨found, scanned, distinct, fun names hne queue e => ?_⟩
  intro dir fault? queue'
  have queued : queue' = queue ++ Watch.changes disk cwd root e := queue_dispatch queue
  refine ⟨fun isDir appears free => ⟨fun fits => ?_, fun long => ?_⟩, fun named goes free => ?_,
    fun event reserved => ?_⟩
  · obtain ⟨created, perm, changes⟩ :=
      exists_changes_appears w rooted scanned hne isDir fits free appears
    rw [queued, changes]
    exact ⟨(appears.fault?_eq w rooted hne isDir free queue).trans
      (if_neg (ne_true_of_eq_false fits)), created, perm, rfl⟩
  · rw [queued, appears.changes_eq_nil_of_tooLong long, List.append_nil]
    exact ⟨(appears.fault?_eq w rooted hne isDir free queue).trans (if_pos long), rfl⟩
  · rw [queued, goes.changes_eq, relative?_of_free hne free]
    exact ⟨fault?_of_quiet goes.appearing?_eq queue, rfl, fun s =>
      s.rows_applyChanges_dirDeleted (nul_not_mem_joinNames hne named)⟩
  · obtain ⟨quiet, nothing⟩ := ignored_of_reserved disk cwd hne reserved event
    rw [queued, nothing, List.append_nil]
    exact ⟨fault?_of_quiet quiet queue, rfl⟩

/-- A directory with a file in it is created and deleted again. -/
theorem directory_events_follow_scans_one :
    let disk : Node Unit := .dir [("r", .dir [("d", .dir [("x", .file ())])])]
    let root := PathText.ofText "/r"
    Scannable [] ["r"] root disk ∧ disk.scanPaths [] root = .ok ["d/x"] ∧
    (Watch.dispatch ⟨root, []⟩ disk [] ⟨.created, "/r/d", "", true⟩).queue =
      [⟨.created, "d/x", none⟩] ∧
    (Watch.dispatch ⟨root, []⟩ disk [] ⟨.deleted, "/r/d", "", true⟩).queue =
      [⟨.dirDeleted, "d", none⟩] := by
  intro disk root
  have watchable : Watchable [] ["r"] root disk :=
    watchable_of_descendants (by simp [disk, Node.proper_dir_iff, Node.IsName]) (by cbv) (by cbv)
      (by cbv)
  have scanned : disk.scanPaths [] root = .ok ["d/x"] := by cbv
  obtain ⟨found, scanned', _, events⟩ := directory_events_follow_scans "/r" watchable.scannable
  obtain rfl := Except.ok.inj (scanned.symm.trans scanned')
  have path : PathText.ofText "/r/d" = root.below ["d"] := by cbv
  obtain ⟨appears, _, _⟩ := events ["d"] (by decide) [] ⟨.created, "/r/d", "", true⟩
  obtain ⟨_, goes, _⟩ := events ["d"] (by decide) [] ⟨.deleted, "/r/d", "", true⟩
  obtain ⟨scan, _⟩ := appears (by cbv) (.created path) (by cbv)
  obtain ⟨_, created, perm, queued⟩ := scan (by cbv)
  obtain ⟨_, queued', _⟩ := goes (by simp [Node.IsName]) (.deleted path) (by cbv)
  have single : (["d/x"].filter (Catalog.LiesIn (joinNames ["d"]) ·)) = ["d/x"] := by decide
  rw [single, List.perm_singleton] at perm
  refine ⟨watchable.scannable, scanned, ?_, queued'⟩
  rw [queued, perm]
  rfl

/-- A scan finds the file in a directory with the name of an index file, but the watch does nothing
when the directory appears or goes. -/
theorem directory_events_miss_reserved :
    let disk : Node Unit := .dir [("r", .dir [(".tag-commander.db.d", .dir [("x", .file ())])])]
    let root := PathText.ofText "/r"
    disk.scanPaths [] root = .ok [".tag-commander.db.d/x"] ∧
    (Watch.dispatch ⟨root, []⟩ disk [] ⟨.created, "/r/.tag-commander.db.d", "", true⟩).queue = [] ∧
    (Watch.dispatch ⟨root, []⟩ disk [] ⟨.deleted, "/r/.tag-commander.db.d", "", true⟩).queue =
      [] := by
  intro disk root
  have path : PathText.ofText "/r/.tag-commander.db.d" = root.below [".tag-commander.db.d"] := by
    cbv
  have reserved : Node.isReserved [".tag-commander.db.d"] = true := by decide
  refine ⟨by cbv, ?_, ?_⟩
  · rw [queue_dispatch, List.nil_append]
    exact (ignored_of_reserved disk [] (by decide) reserved (.inl (.created path))).2
  · rw [queue_dispatch, List.nil_append]
    exact (ignored_of_reserved disk [] (by decide) reserved (.inr (.deleted path))).2

end TagSearch
