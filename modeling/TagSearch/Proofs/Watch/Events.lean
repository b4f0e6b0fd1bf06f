import TagSearch.Proofs.Catalog.Present
import TagSearch.Proofs.Watch.Listing

/-!
# What events do to the present paths

An event that reports a change of a disk is turned into changes of the indexed files. If the paths
that are present were those listed before, they are those listed after it.

* `IsNamed` and `Reports`: the events by which a change is reported.
* `mem_presentPaths_appeared`, `mem_presentPaths_vanished` and `mem_presentPaths_moved`: what the
  events do, if something appears, goes, or moves below the watched directory.
* `Reports.fault?_eq_none`: every event of a change can be handled.
* `Reports.mem_presentPaths_iff`: the present paths after an event are the listed ones.
-/

namespace TagSearch

variable {α : Type} {disk disk' node : Node α} {cwd here place old new : Place} {root : PathText}
  {path src dest : String} {dir : Bool} {c : Catalog} {e : DiskEvent}

/-! ## Events -/

/-- A text names a place: a place below the watched directory by the path that continues its path,
and a place outside by a path that does not lie below its path. -/
structure IsNamed (here : Place) (root : PathText) (place : Place) (text : String) : Prop where
  inside : ∀ names, place = here ++ names → PathText.ofText text = root.below names
  outside : ¬ here <+: place → (PathText.ofText text).relativeTo? root = none

/-- The events by which a change is reported. A move from outside may also be reported as a
creation, and a move to outside as a deletion. -/
inductive Reports (here : Place) (root : PathText) (disk : Node α) :
    DiskChange α → DiskEvent → Prop where
  | made {place : Place} {node : Node α} {src dest : String} (named : IsNamed here root place src) :
    Reports here root disk (.make place node) ⟨.created, src, dest, node.isDir⟩
  | removed {place : Place} {src dest : String} {dir : Bool} (kind : disk.kind? place = some dir)
    (named : IsNamed here root place src) :
    Reports here root disk (.remove place) ⟨.deleted, src, dest, dir⟩
  | moved {old new : Place} {src dest : String} {dir : Bool} (kind : disk.kind? old = some dir)
    (named : IsNamed here root old src) (named' : IsNamed here root new dest) :
    Reports here root disk (.move old new) ⟨.moved, src, dest, dir⟩
  | movedIn {old new : Place} {src dest : String} {dir : Bool} (kind : disk.kind? old = some dir)
    (outside : ¬ here <+: old) (named : IsNamed here root new src) :
    Reports here root disk (.move old new) ⟨.created, src, dest, dir⟩
  | movedOut {old new : Place} {src dest : String} {dir : Bool} (kind : disk.kind? old = some dir)
    (outside : ¬ here <+: new) (named : IsNamed here root old src) :
    Reports here root disk (.move old new) ⟨.deleted, src, dest, dir⟩

/-- A place at which something can be changed while the directory is watched: neither the directory
itself nor one above it, and with a path that is not too long. -/
structure Changeable (here : Place) (root : PathText) (place : Place) : Prop where
  off : ¬ place <+: here
  fits : ∀ names, place = here ++ names → isPathTooLong (root.below names).toText = false

theorem Changeable.ne_nil (h : Changeable here root place) : place ≠ [] := by
  rintro rfl
  exact h.off List.nil_prefix

/-- A text that continues the path of the watched directory names a place below it. -/
theorem isNamed_below {names : List String} {text : String}
    (e : PathText.ofText text = root.below names) : IsNamed here root (here ++ names) text where
  inside names' same := by rw [e, List.append_cancel_left same]
  outside away := (away (List.prefix_append here names)).elim

theorem changeable_below {names : List String} (hne : names ≠ [])
    (fits : isPathTooLong (root.below names).toText = false) :
    Changeable here root (here ++ names) where
  off := by
    rintro ⟨rest, e⟩
    have length := congrArg List.length e
    have pos := List.length_pos_iff.2 hne
    simp only [List.length_append] at length
    omega
  fits names' same := by rwa [← List.append_cancel_left same]

/-- The path that an event tells is the one that the place is listed under. -/
theorem IsNamed.relative?_eq (named : IsNamed here root place src)
    (changeable : Changeable here root place) :
    Watch.relative? root (.ofText src) = shown? here place := by
  by_cases inside : here <+: place
  · obtain ⟨names, rfl⟩ := inside
    have hne := ne_nil_of_not_above changeable.off
    rw [named.inside names rfl, relative?_below root hne, shown?_below here hne]
  · have hidden := shown?_outside inside changeable.off []
    rw [List.append_nil] at hidden
    rw [hidden, relative?_of_outside (named.outside inside)]

/-! ## Changes of events -/

theorem changes_created_file :
    Watch.changes disk cwd root ⟨.created, src, dest, false⟩ =
      (Watch.relative? root (.ofText src)).toList.map fun p => ⟨.created, p, none⟩ := by
  simp only [Watch.changes, Watch.appearing?, Watch.change?]
  cases Watch.relative? root (.ofText src) <;> rfl

theorem changes_created_dir :
    Watch.changes disk cwd root ⟨.created, src, dest, true⟩ =
      if (Watch.relative? root (.ofText src)).isSome then
        Watch.appeared disk cwd root (.ofText src)
      else [] := by
  simp only [Watch.changes, Watch.appearing?, Watch.change?]
  cases Watch.relative? root (.ofText src) <;> rfl

theorem changes_deleted :
    Watch.changes disk cwd root ⟨.deleted, src, dest, dir⟩ =
      (Watch.relative? root (.ofText src)).toList.map fun p =>
        ⟨if dir then .dirDeleted else .deleted, p, none⟩ := by
  simp only [Watch.changes, Watch.appearing?, Watch.change?]
  cases dir <;> cases Watch.relative? root (.ofText src) <;> rfl

theorem changes_moved {p q : String} (shown : Watch.relative? root (.ofText src) = some p)
    (shown' : Watch.relative? root (.ofText dest) = some q) :
    Watch.changes disk cwd root ⟨.moved, src, dest, dir⟩ =
      [⟨if dir then .dirMoved else .moved, p, some q⟩] := by
  simp only [Watch.changes, Watch.appearing?, Watch.change?, shown, shown']
  cases dir <;> rfl

theorem appearing?_created :
    Watch.appearing? root ⟨.created, src, dest, true⟩ =
      (Watch.relative? root (.ofText src)).map fun _ => .ofText src := by
  simp only [Watch.appearing?]
  cases Watch.relative? root (.ofText src) <;> rfl

theorem appearing?_moved_of_left (hidden : Watch.relative? root (.ofText src) = none) :
    Watch.appearing? root ⟨.moved, src, dest, dir⟩ =
      Watch.appearing? root ⟨.created, dest, "", dir⟩ := by
  simp only [Watch.appearing?, hidden]
  cases dir <;> cases Watch.relative? root (.ofText dest) <;> rfl

/-- A move from a path that does not matter is a creation. -/
theorem changes_moved_of_left (hidden : Watch.relative? root (.ofText src) = none) :
    Watch.changes disk cwd root ⟨.moved, src, dest, dir⟩ =
      Watch.changes disk cwd root ⟨.created, dest, "", dir⟩ := by
  rw [Watch.changes, Watch.changes, appearing?_moved_of_left hidden]
  simp only [Watch.change?, hidden]
  cases Watch.relative? root (.ofText dest) <;> rfl

/-- A move to a path that does not matter is a deletion. -/
theorem changes_moved_of_right (hidden : Watch.relative? root (.ofText dest) = none) :
    Watch.changes disk cwd root ⟨.moved, src, dest, dir⟩ =
      Watch.changes disk cwd root ⟨.deleted, src, "", dir⟩ := by
  simp only [Watch.changes, Watch.appearing?, Watch.change?, hidden]
  cases dir <;> cases Watch.relative? root (.ofText src) <;> rfl

/-! ## Something appears -/

/-- What is no directory is not at the place of a directory. -/
theorem ne_nil_of_file {q : Place} (isDir : disk.kind? place = some true)
    (file : disk.kind? (place ++ q) = some false) : q ≠ [] := by
  rintro rfl
  rw [List.append_nil, isDir] at file
  cases file

/-- At a place that is no directory only its own path is listed. -/
theorem listedAt_iff_of_file (file : disk.kind? place = some false) :
    ListedAt here disk place path ↔ shown? here place = some path := by
  constructor
  · rintro ⟨q, shown, there⟩
    by_cases hq : q = []
    · rwa [hq, List.append_nil] at shown
    · rw [Node.kind?_below (by rw [file]; decide) hq] at there
      cases there
  · exact fun shown => ⟨[], by rwa [List.append_nil], by rwa [List.append_nil]⟩

/-- The paths that are listed below a directory, from what a scan of the directory finds. -/
theorem exists_appeared (w : Scannable cwd here root disk) {names : List String} (hne : names ≠ [])
    (fits : isPathTooLong (root.below names).toText = false)
    (isDir : disk.kind? (here ++ names) = some true)
    (rooted : ∀ name ∈ root.parts, IsPart name) :
    ∃ paths : List String, Watch.appeared disk cwd root (root.below names) =
        (paths.map fun p => ⟨.created, p, none⟩) ∧
      paths.Nodup ∧ ∀ path, path ∈ paths ↔ ListedAt here disk (here ++ names) path := by
  obtain ⟨found, scanned, distinct, mem⟩ := w.scanPaths_below rooted (fun _ => fits) isDir
  have parts {q : Place} (hq : q ∈ found) : ∀ name ∈ names ++ q, IsPart name :=
    w.isPart (by rw [← List.append_assoc]; exact ((mem q).1 hq).2.1)
  -- Every path that is found is shown, behind the names of the directory.
  have inside : (found.map joinNames).filterMap
      (fun p => Watch.relative? root ((root.below names).join (.ofText p))) =
        found.map fun q => joinNames (names ++ q) := by
    rw [List.filterMap_map, ← List.filterMap_eq_map]
    refine List.filterMap_congr fun q hq => ?_
    obtain ⟨hq', _, free⟩ := (mem q).1 hq
    have parts' : ∀ name ∈ q, IsPart name := fun name mem =>
      parts hq name (List.mem_append_right names mem)
    have last : Node.isReserved (names ++ q) = false := by
      rwa [Node.isReserved, List.getLast?_append_of_ne_nil _ hq', ← Node.isReserved]
    rw [Function.comp_apply, ofText_joinNames parts', PathText.join_below,
      relative?_below root (List.append_ne_nil_of_left_ne_nil hne q), if_neg (by simp [last])]
    rfl
  rw [Watch.appeared, scanned]
  dsimp only
  rw [inside]
  refine ⟨_, rfl, ?_, fun path => ?_⟩
  · rw [(List.mergeSort_perm _ _).nodup_iff]
    refine distinct.map_on fun p hp q hq same => ?_
    exact List.append_cancel_left (joinNames_injective (parts hp) (parts hq) same)
  · rw [(List.mergeSort_perm _ _).mem_iff, List.mem_map]
    simp only [mem]
    constructor
    · rintro ⟨q, ⟨hq, file, free⟩, rfl⟩
      exact ⟨q, (shown?_append_iff here names hq).2 ⟨free, rfl⟩, file⟩
    · rintro ⟨q, shown, file⟩
      have hq := ne_nil_of_file isDir file
      obtain ⟨free, e⟩ := (shown?_append_iff here names hq).1 shown
      exact ⟨q, ⟨hq, file, free⟩, e⟩

theorem kind?_made (applied : (DiskChange.make place node).apply disk = some disk') :
    disk'.kind? place = some node.isDir := by
  have there := Node.get?_put (of_apply_make applied).2 []
  rw [List.append_nil, Node.get?_nil] at there
  rw [Node.kind?, there, Option.map_some]

/-- **Where something appears**, the listed paths become present. -/
theorem mem_presentPaths_appeared (h : c.Consistent) (rooted : ∀ name ∈ root.parts, IsPart name)
    (w : Watchable cwd here root disk) (changeable : Changeable here root place)
    (named : IsNamed here root place src) (kind : disk.kind? place = some dir) :
    path ∈ (c.steps (Watch.changes disk cwd root ⟨.created, src, dest, dir⟩)).1.presentPaths ↔
      path ∈ c.presentPaths ∨ ListedAt here disk place path := by
  cases dir with
  | false =>
    rw [changes_created_file, Catalog.mem_presentPaths_created h, named.relative?_eq changeable,
      listedAt_iff_of_file kind, Option.mem_toList]
  | true =>
    rw [changes_created_dir, named.relative?_eq changeable]
    cases shown : shown? here place with
    | none =>
      have hidden : ¬ ListedAt here disk place path :=
        w.not_listedAt_of_hidden kind changeable.off shown
      exact (or_iff_left hidden).symm
    | some p =>
      obtain ⟨names, hne, rfl, _⟩ := shown?_eq_some_iff.1 shown
      obtain ⟨paths, e, _, mem⟩ :=
        exists_appeared w.scannable hne (changeable.fits names rfl) kind rooted
      rw [Option.isSome_some, if_pos rfl, named.inside names rfl, e,
        Catalog.mem_presentPaths_created h, mem]

/-! ## Something goes -/

/-- The paths that are listed apart from a directory are those that do not lie below its path. -/
theorem listedApart_iff_of_isDir (w : Scannable cwd here root disk) {names : List String}
    (hne : names ≠ []) (isDir : disk.kind? (here ++ names) = some true) :
    ListedApart here disk (here ++ names) path ↔
      Listed here disk path ∧ ¬ Catalog.isBelow (joinNames names) path = true := by
  have below {q : List String} (hq : q ≠ []) (file : disk.kind? (here ++ q) = some false) :
      Catalog.isBelow (joinNames names) (joinNames q) = true ↔ here ++ names <+: here ++ q := by
    rw [isBelow_joinNames_iff hne (w.isPart isDir) hq (w.isName file),
      List.prefix_append_right_inj]
    constructor
    · rintro ⟨r, _, rfl⟩
      exact List.prefix_append names r
    · rintro ⟨r, rfl⟩
      refine ⟨r, ?_, rfl⟩
      rintro rfl
      rw [List.append_nil, isDir] at file
      cases file
  constructor
  · rintro ⟨r, apart, shown, file⟩
    obtain ⟨q, hq, rfl, _, rfl⟩ := shown?_eq_some_iff.1 shown
    exact ⟨⟨_, shown, file⟩, mt (below hq file).1 apart⟩
  · rintro ⟨⟨r, shown, file⟩, apart⟩
    obtain ⟨q, hq, rfl, _, rfl⟩ := shown?_eq_some_iff.1 shown
    exact ⟨_, mt (below hq file).2 apart, shown, file⟩

/-- The paths that are listed apart from a file are the others. -/
theorem listedApart_iff_of_file (w : Scannable cwd here root disk) {p : String}
    (file : disk.kind? place = some false) (shown : shown? here place = some p) :
    ListedApart here disk place path ↔ Listed here disk path ∧ path ≠ p := by
  rw [listed_iff place, listedAt_iff_of_file file, shown, Option.some_inj]
  constructor
  · rintro ⟨r, apart, shown', file'⟩
    refine ⟨Or.inl ⟨r, apart, shown', file'⟩, ?_⟩
    rintro rfl
    refine apart ?_
    rw [w.shown?_injective file file' shown shown']
  · rintro ⟨listed | same, other⟩
    · exact listed
    · exact (other same.symm).elim

/-- **Where something goes**, the other listed paths stay present. -/
theorem mem_presentPaths_vanished (h : c.Consistent) (w : Watchable cwd here root disk)
    (present : ∀ path, path ∈ c.presentPaths ↔ Listed here disk path)
    (changeable : Changeable here root place) (named : IsNamed here root place src)
    (kind : disk.kind? place = some dir) :
    path ∈ (c.steps (Watch.changes disk' cwd root ⟨.deleted, src, dest, dir⟩)).1.presentPaths ↔
      ListedApart here disk place path := by
  rw [changes_deleted, named.relative?_eq changeable]
  cases shown : shown? here place with
  | none =>
    have hidden : ¬ ListedAt here disk place path :=
      w.not_listedAt_of_hidden kind changeable.off shown
    exact (present path).trans ((listed_iff place).trans (or_iff_left hidden))
  | some p =>
    cases dir with
    | false =>
      rw [listedApart_iff_of_file w.scannable kind shown, ← present]
      exact Catalog.mem_presentPaths_markMissing h p
    | true =>
      obtain ⟨names, hne, rfl, _, rfl⟩ := shown?_eq_some_iff.1 shown
      rw [listedApart_iff_of_isDir w.scannable hne kind, ← present]
      exact Catalog.mem_presentPaths_markDirMissing h _

/-! ## Something moves -/

theorem kind?_moved (applied : (DiskChange.move old new).apply disk = some disk') (hold : old ≠ [])
    (kind : disk.kind? old = some dir) : disk'.kind? new = some dir := by
  obtain ⟨apart, moved⟩ := of_apply_move applied
  have there := (Node.kind?_move moved apart hold).1 []
  rwa [List.append_nil, List.append_nil, kind] at there

section

variable (h : c.Consistent) (w : Watchable cwd here root disk) (w' : Watchable cwd here root disk')
  (present : ∀ path, path ∈ c.presentPaths ↔ Listed here disk path)
  (applied : (DiskChange.move old new).apply disk = some disk')
  (changeable : Changeable here root old) (changeable' : Changeable here root new)
  (kind : disk.kind? old = some dir)

include h w w' present applied changeable changeable' kind

/-- **Where something moves to** from a place that is not shown, the listed paths become present. -/
theorem mem_presentPaths_movedIn (rooted : ∀ name ∈ root.parts, IsPart name)
    (hidden : shown? here old = none) (named : IsNamed here root new src) :
    path ∈ (c.steps (Watch.changes disk' cwd root ⟨.created, src, dest, dir⟩)).1.presentPaths ↔
      Listed here disk' path := by
  have nothing : ¬ ListedAt here disk old path :=
    w.not_listedAt_of_hidden kind changeable.off hidden
  rw [mem_presentPaths_appeared h rooted w' changeable' named
    (kind?_moved applied changeable.ne_nil kind), listed_move applied changeable.ne_nil, present,
    listed_iff old, or_iff_left nothing]

/-- **Where something moves from** to a place that is not shown, the other listed paths stay
present. -/
theorem mem_presentPaths_movedOut (hidden : shown? here new = none)
    (named : IsNamed here root old src) :
    path ∈ (c.steps (Watch.changes disk' cwd root ⟨.deleted, src, dest, dir⟩)).1.presentPaths ↔
      Listed here disk' path := by
  have nothing : ¬ ListedAt here disk' new path :=
    w'.not_listedAt_of_hidden (kind?_moved applied changeable.ne_nil kind) changeable'.off hidden
  rw [mem_presentPaths_vanished h w present changeable named kind,
    listed_move applied changeable.ne_nil, or_iff_left nothing]

/-- **Where something moves** from a shown place to a shown place, the paths listed at the new place
become present, and those listed at the old one do not stay it. -/
theorem mem_presentPaths_moved (named : IsNamed here root old src)
    (named' : IsNamed here root new dest) {p q : String} (shown : shown? here old = some p)
    (shown' : shown? here new = some q) :
    path ∈ (c.steps (Watch.changes disk' cwd root ⟨.moved, src, dest, dir⟩)).1.presentPaths ↔
      Listed here disk' path := by
  obtain ⟨apart, moved⟩ := of_apply_move applied
  obtain ⟨there, _⟩ := Node.kind?_move moved apart changeable.ne_nil
  have kind' := kind?_moved applied changeable.ne_nil kind
  rw [listed_move applied changeable.ne_nil,
    changes_moved ((named.relative?_eq changeable).trans shown)
      ((named'.relative?_eq changeable').trans shown')]
  cases dir with
  | false =>
    have listed : p ∈ c.presentPaths := (present p).2 ⟨old, shown, kind⟩
    rw [listedApart_iff_of_file w.scannable kind shown, listedAt_iff_of_file kind', ← present,
      shown', Option.some_inj, eq_comm (a := q)]
    exact Catalog.mem_presentPaths_rename h q listed
  | true =>
    obtain ⟨names, hne, rfl, _, rfl⟩ := shown?_eq_some_iff.1 shown
    obtain ⟨names', hne', rfl, _, rfl⟩ := shown?_eq_some_iff.1 shown'
    have isPart := w.scannable.isPart kind
    have isPart' := w'.scannable.isPart kind'
    have apart' : Catalog.Apart (joinNames names) (joinNames names') := by
      refine apart_joinNames hne isPart hne' isPart' (fun below => ?_) fun above => ?_
      · exact Node.not_below_of_move moved apart changeable.ne_nil
          ((List.prefix_append_right_inj here).2 below)
      · exact Node.not_above_of_move moved apart ((List.prefix_append_right_inj here).2 above)
    refine (Catalog.mem_presentPaths_renameDir h apart').trans (or_congr ?_ ?_)
    · rw [listedApart_iff_of_isDir w.scannable hne kind, present]
    · constructor
      · rintro ⟨p, hp, below, rfl⟩
        rcases (listed_iff (here ++ names)).1 ((present p).1 hp) with off | ⟨q, shown, file⟩
        · exact (((listedApart_iff_of_isDir w.scannable hne kind).1 off).2 below).elim
        · have hq := ne_nil_of_file kind file
          obtain ⟨free, rfl⟩ := (shown?_append_iff here names hq).1 shown
          refine ⟨q, (shown?_append_iff here names' hq).2 ⟨free, ?_⟩, (there q).trans file⟩
          rw [rebase_joinNames hne hq hne']
      · rintro ⟨q, shown, file⟩
        have hq := ne_nil_of_file kind' file
        obtain ⟨free, rfl⟩ := (shown?_append_iff here names' hq).1 shown
        have file' := (there q).symm.trans file
        refine ⟨joinNames (names ++ q), (present _).2 ⟨here ++ names ++ q, ?_, file'⟩, ?_, ?_⟩
        · exact (shown?_append_iff here names hq).2 ⟨free, rfl⟩
        · have named : ∀ name ∈ names ++ q, Node.IsName name :=
            w.scannable.isName (by rw [← List.append_assoc, file'])
          exact (isBelow_joinNames_iff hne isPart (List.append_ne_nil_of_left_ne_nil hne q)
            named).2 ⟨q, hq, rfl⟩
        · rw [rebase_joinNames hne hq hne']

end

/-! ## The event of a change -/

/-- Places outside are not shown. -/
theorem Changeable.shown?_eq_none (changeable : Changeable here root place)
    (outside : ¬ here <+: place) : shown? here place = none := by
  rw [← List.append_nil place]
  exact shown?_outside outside changeable.off []

/-- **If the present paths were the listed ones, they are those listed after an event** that reports
what changed. -/
theorem Reports.mem_presentPaths_iff {change : DiskChange α} {e : DiskEvent}
    (reports : Reports here root disk change e) (h : c.Consistent)
    (rooted : ∀ name ∈ root.parts, IsPart name) (w : Watchable cwd here root disk)
    (w' : Watchable cwd here root disk') (applied : change.apply disk = some disk')
    (changeable : ∀ place ∈ change.places, Changeable here root place)
    (present : ∀ path, path ∈ c.presentPaths ↔ Listed here disk path) :
    path ∈ (c.steps (Watch.changes disk' cwd root e)).1.presentPaths ↔ Listed here disk' path := by
  cases reports with
  | @made place node src _ named =>
    rw [mem_presentPaths_appeared h rooted w' (changeable place List.mem_cons_self) named
      (kind?_made applied), listed_make applied, present]
  | @removed place src _ _ kind named =>
    have at' := changeable place List.mem_cons_self
    rw [mem_presentPaths_vanished h w present at' named kind, listed_remove applied at'.ne_nil]
  | @moved old new src dest dir kind named named' =>
    have source := changeable old List.mem_cons_self
    have target := changeable new (List.mem_cons_of_mem _ List.mem_cons_self)
    cases shown : shown? here old with
    | none =>
      rw [changes_moved_of_left ((named.relative?_eq source).trans shown)]
      exact mem_presentPaths_movedIn h w w' present applied source target kind rooted shown named'
    | some p =>
      cases shown' : shown? here new with
      | none =>
        rw [changes_moved_of_right ((named'.relative?_eq target).trans shown')]
        exact mem_presentPaths_movedOut h w w' present applied source target kind shown' named
      | some q =>
        exact mem_presentPaths_moved h w w' present applied source target kind named named' shown
          shown'
  | @movedIn old new src _ dir kind outside named =>
    have source := changeable old List.mem_cons_self
    have target := changeable new (List.mem_cons_of_mem _ List.mem_cons_self)
    exact mem_presentPaths_movedIn h w w' present applied source target kind rooted
      (source.shown?_eq_none outside) named
  | @movedOut old new src _ dir kind outside named =>
    have source := changeable old List.mem_cons_self
    have target := changeable new (List.mem_cons_of_mem _ List.mem_cons_self)
    exact mem_presentPaths_movedOut h w w' present applied source target kind
      (target.shown?_eq_none outside) named

/-! ## Events that can be handled -/

/-- An event that tells of no directory that appears can be handled. -/
theorem fault?_of_quiet (quiet : Watch.appearing? root e = none) (queue : List Change) :
    Watch.fault? ⟨root, queue⟩ disk cwd e = none := by
  rw [Watch.fault?, quiet, Option.bind_none]

theorem fault?_created (w : Scannable cwd here root disk)
    (rooted : ∀ name ∈ root.parts, IsPart name) (changeable : Changeable here root place)
    (named : IsNamed here root place src) (kind : disk.kind? place = some dir)
    (queue : List Change) :
    Watch.fault? ⟨root, queue⟩ disk cwd ⟨.created, src, dest, dir⟩ = none := by
  cases dir with
  | false => rfl
  | true =>
    have told := @appearing?_created root src dest
    rw [named.relative?_eq changeable] at told
    cases shown : shown? here place with
    | none =>
      rw [shown] at told
      exact fault?_of_quiet told queue
    | some p =>
      rw [shown] at told
      obtain ⟨names, _, rfl, _⟩ := shown?_eq_some_iff.1 shown
      obtain ⟨found, scanned, _⟩ :=
        w.scanPaths_below rooted (fun _ => changeable.fits names rfl) kind
      rw [Watch.fault?, told, Option.map_some, Option.bind_some, named.inside names rfl, scanned]

theorem fault?_deleted (queue : List Change) :
    Watch.fault? ⟨root, queue⟩ disk cwd ⟨.deleted, src, dest, dir⟩ = none := by
  refine fault?_of_quiet ?_ queue
  cases dir <;> rfl

/-- **The event of a change can be handled**, because a directory that appears can be scanned. -/
theorem Reports.fault?_eq_none {change : DiskChange α} {e : DiskEvent}
    (reports : Reports here root disk change e) (rooted : ∀ name ∈ root.parts, IsPart name)
    (w' : Watchable cwd here root disk') (applied : change.apply disk = some disk')
    (changeable : ∀ place ∈ change.places, Changeable here root place) (queue : List Change) :
    Watch.fault? ⟨root, queue⟩ disk' cwd e = none := by
  cases reports with
  | @made place node src _ named =>
    exact fault?_created w'.scannable rooted (changeable place List.mem_cons_self) named
      (kind?_made applied) queue
  | removed | movedOut => exact fault?_deleted queue
  | @moved old new src dest dir kind named named' =>
    have source := changeable old List.mem_cons_self
    have target := changeable new (List.mem_cons_of_mem _ List.mem_cons_self)
    have there := kind?_moved applied source.ne_nil kind
    rw [Watch.fault?]
    cases shown : shown? here old with
    | none =>
      rw [appearing?_moved_of_left ((named.relative?_eq source).trans shown)]
      exact fault?_created w'.scannable rooted target named' there queue
    | some p =>
      have quiet : Watch.appearing? root ⟨.moved, src, dest, dir⟩ = none := by
        simp [Watch.appearing?, (named.relative?_eq source).trans shown]
      rw [quiet, Option.bind_none]
  | @movedIn old new src _ dir kind outside named =>
    have source := changeable old List.mem_cons_self
    have target := changeable new (List.mem_cons_of_mem _ List.mem_cons_self)
    exact fault?_created w'.scannable rooted target named (kind?_moved applied source.ne_nil kind)
      queue

end TagSearch
