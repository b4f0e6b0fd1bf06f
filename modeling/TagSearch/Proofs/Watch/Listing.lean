import TagSearch.Proofs.Disk.Locate
import TagSearch.Proofs.Disk.Scanning
import TagSearch.Watch

/-!
# What changes of a disk do to a listing

The files below a watched directory are listed by their paths. A change of the disk is that of one
place, or a move from one place to another; what it does to the listing is told by the places.

* `shown?` is the path under which a place is listed.
* `Scannable` and `Watchable`: a disk on which a directory can be scanned, and watched.
* `Scannable.exists_scanPaths`: a scan finds the listed paths, each once.
* `DiskChange` and `DiskChange.apply`: the changes, as a disk permits them.
* `listed_make`, `listed_remove` and `listed_move`: the listing after a change.
-/

namespace TagSearch

variable {α : Type} {disk disk' node : Node α} {cwd here place : Place} {root : PathText}
  {path : String} {b : Bool}

/-! ## Listings -/

/-- The path under which what is at a place is listed, if the watched directory is at `here`. -/
def shown? (here place : Place) : Option String := Watch.relative? (.ofPlace here) (.ofPlace place)

/-- A path is listed if there is something at its place that is no directory. -/
def Listed (here : Place) (disk : Node α) (path : String) : Prop :=
  ∃ place, shown? here place = some path ∧ disk.kind? place = some false

theorem relative?_of_outside {p : PathText} (outside : p.relativeTo? root = none) :
    Watch.relative? root p = none := by
  unfold Watch.relative?
  rw [outside]
  split <;> rfl

theorem relative?_below (root : PathText) {names : List String} (hne : names ≠ []) :
    Watch.relative? root (root.below names) =
      if Node.isReserved names then none else some (joinNames names) := by
  have last : (root.below names).name = names.getLast?.getD "" := by
    rw [PathText.name, PathText.below_eq, List.getLast?_append_of_ne_nil _ hne]
  rw [Watch.relative?, last, PathText.relativeTo?_below, Node.isReserved]
  obtain ⟨name, names, rfl⟩ := List.exists_cons_of_ne_nil hne
  rfl

theorem shown?_below (here : Place) {names : List String} (hne : names ≠ []) :
    shown? here (here ++ names) =
      if Node.isReserved names then none else some (joinNames names) :=
  relative?_below (.ofPlace here) hne

/-- What is listed is below the watched directory. -/
theorem shown?_eq_some_iff :
    shown? here place = some path ↔
      ∃ names ≠ [], place = here ++ names ∧ Node.isReserved names = false ∧
        joinNames names = path := by
  constructor
  · intro shown
    have below : here <+: place := by
      by_contra outside
      have none : (PathText.ofPlace place).relativeTo? (.ofPlace here) = none := by
        simpa [PathText.relativeTo?, PathText.ofPlace] using outside
      rw [shown?, relative?_of_outside none] at shown
      cases shown
    obtain ⟨names, rfl⟩ := below
    have hne : names ≠ [] := by
      rintro rfl
      have itself : (PathText.ofPlace (here ++ [])).relativeTo? (.ofPlace here) = some [] :=
        PathText.relativeTo?_below (.ofPlace here) []
      rw [shown?, Watch.relative?, itself] at shown
      split at shown <;> cases shown
    rw [shown?_below here hne] at shown
    split at shown
    · cases shown
    · rename_i free
      exact ⟨names, hne, rfl, by simpa using free, Option.some.inj shown⟩
  · rintro ⟨names, hne, rfl, free, rfl⟩
    rw [shown?_below here hne, if_neg (by simp [free])]

/-- Whether what is below a directory is shown does not depend on the directory. -/
theorem shown?_append_iff (here : Place) (names : List String) {q : List String} (hq : q ≠ []) :
    shown? here (here ++ names ++ q) = some path ↔
      Node.isReserved q = false ∧ joinNames (names ++ q) = path := by
  have last : Node.isReserved (names ++ q) = Node.isReserved q := by
    rw [Node.isReserved, Node.isReserved, List.getLast?_append_of_ne_nil _ hq]
  rw [List.append_assoc, shown?_below here (List.append_ne_nil_of_right_ne_nil names hq), last]
  cases Node.isReserved q <;> simp

/-- A path is listed at a place or below it. -/
def ListedAt (here : Place) (disk : Node α) (place : Place) (path : String) : Prop :=
  ∃ q, shown? here (place ++ q) = some path ∧ disk.kind? (place ++ q) = some false

/-- A path is listed neither at a place nor below it. -/
def ListedApart (here : Place) (disk : Node α) (place : Place) (path : String) : Prop :=
  ∃ r, ¬ place <+: r ∧ shown? here r = some path ∧ disk.kind? r = some false

theorem listed_iff (place : Place) :
    Listed here disk path ↔ ListedApart here disk place path ∨ ListedAt here disk place path := by
  constructor
  · rintro ⟨r, shown, file⟩
    by_cases below : place <+: r
    · obtain ⟨q, rfl⟩ := below
      exact Or.inr ⟨q, shown, file⟩
    · exact Or.inl ⟨r, below, shown, file⟩
  · rintro (⟨r, _, shown, file⟩ | ⟨q, shown, file⟩)
    · exact ⟨r, shown, file⟩
    · exact ⟨_, shown, file⟩

theorem ne_nil_of_not_above {names : List String} (off : ¬ here ++ names <+: here) :
    names ≠ [] := by
  rintro rfl
  exact off (by rw [List.append_nil])

/-- Nothing is listed at and below a place outside. -/
theorem shown?_outside (outside : ¬ here <+: place) (off : ¬ place <+: here) (q : Place) :
    shown? here (place ++ q) = none := by
  rw [Option.eq_none_iff_forall_ne_some]
  intro path shown
  obtain ⟨names, _, e, _⟩ := shown?_eq_some_iff.1 shown
  have both : here <+: place ++ q := ⟨names, e.symm⟩
  exact (List.prefix_or_prefix_of_prefix both (List.prefix_append place q)).elim outside off

/-! ## Scanned disks -/

/-- A disk on which the directory at `here` can be scanned under the path `root`. Names are no
longer than names can be, and the path leads to the directory. -/
structure Scannable (cwd here : Place) (root : PathText) (disk : Node α) : Prop where
  proper : disk.Proper
  short : ∀ place name, disk.kind? (place ++ [name]) ≠ none → isNameTooLong name = false
  located : disk.locate cwd root.toText = .ok here
  isDir : disk.kind? here = some true

namespace Scannable

variable (w : Scannable cwd here root disk)

include w

theorem isName {names : List String} (there : disk.kind? (here ++ names) = some b) :
    ∀ name ∈ names, Node.IsName name := fun name mem =>
  w.proper.isName there name (List.mem_append_right here mem)

theorem isPart {names : List String} (there : disk.kind? (here ++ names) = some b) :
    ∀ name ∈ names, IsPart name := fun name mem => (w.isName there name mem).isPart

theorem isShort {names : List String} (there : disk.kind? (here ++ names) = some b) :
    ∀ name ∈ names, isNameTooLong name = false := by
  intro name mem
  obtain ⟨before, after, rfl⟩ := List.append_of_mem mem
  refine w.short (here ++ before) name fun missing => ?_
  have split : here ++ (before ++ name :: after) = here ++ before ++ [name] ++ after := by simp
  rw [split, Node.kind?_below_none missing after] at there
  cases there

/-- Places below the scanned directory are told by their paths. -/
theorem shown?_injective {p q : Place} (there : disk.kind? p = some b)
    (there' : disk.kind? q = some b) (shown : shown? here p = some path)
    (shown' : shown? here q = some path) : p = q := by
  obtain ⟨names, _, rfl, _, e⟩ := shown?_eq_some_iff.1 shown
  obtain ⟨names', _, rfl, _, e'⟩ := shown?_eq_some_iff.1 shown'
  rw [joinNames_injective (w.isPart there) (w.isPart there') (e.trans e'.symm)]

/-- What a scan of a directory below another one, or of this one, finds. -/
theorem scanPaths_below (rooted : ∀ name ∈ root.parts, IsPart name) {names : List String}
    (fits : names ≠ [] → isPathTooLong (root.below names).toText = false)
    (dir : disk.kind? (here ++ names) = some true) :
    ∃ found : List Place, disk.scanPaths cwd (root.below names) = .ok (found.map joinNames) ∧
      found.Nodup ∧ ∀ q, q ∈ found ↔
        q ≠ [] ∧ disk.kind? (here ++ names ++ q) = some false ∧ Node.isReserved q = false := by
  obtain ⟨es, there⟩ := Node.exists_of_isDir dir
  have proper := w.proper.of_get? there
  refine ⟨(Node.dir es).scan, ?_, Node.nodup_scan proper, fun q => ?_⟩
  · exact Node.scanPaths_below rooted w.located (w.isName dir) (w.isShort dir) fits there
  · rw [Node.mem_scan_iff proper, Node.kind?_of_get? there]

/-- **A scan finds the listed paths**, each once. -/
theorem exists_scanPaths (rooted : ∀ name ∈ root.parts, IsPart name) :
    ∃ found, disk.scanPaths cwd root = .ok found ∧ found.Nodup ∧
      ∀ path, path ∈ found ↔ Listed here disk path := by
  have whole : root.below [] = root := by rw [PathText.below_eq, List.append_nil]
  have dir : disk.kind? (here ++ []) = some true := by rw [List.append_nil]; exact w.isDir
  obtain ⟨places, scanned, distinct, mem⟩ := w.scanPaths_below rooted (fun h => (h rfl).elim) dir
  rw [whole] at scanned
  simp only [List.append_nil] at mem
  refine ⟨_, scanned, distinct.map_on fun p hp q hq same => ?_, fun path => ?_⟩
  · exact joinNames_injective (w.isPart ((mem p).1 hp).2.1) (w.isPart ((mem q).1 hq).2.1) same
  · simp only [List.mem_map, mem]
    constructor
    · rintro ⟨q, ⟨hq, file, free⟩, rfl⟩
      exact ⟨_, shown?_eq_some_iff.2 ⟨q, hq, rfl, free, rfl⟩, file⟩
    · rintro ⟨_, shown, file⟩
      obtain ⟨q, hq, rfl, free, rfl⟩ := shown?_eq_some_iff.1 shown
      exact ⟨q, ⟨hq, file, free⟩, rfl⟩

end Scannable

/-! ## Watched disks -/

/-- A disk on which the directory at `here` can be watched under the path `root`. Names are no
longer than names can be, the path leads to the directory, and no directory below it has the name of
an index file. -/
structure Watchable (cwd here : Place) (root : PathText) (disk : Node α) : Prop where
  proper : disk.Proper
  short : ∀ place name, disk.kind? (place ++ [name]) ≠ none → isNameTooLong name = false
  located : disk.locate cwd root.toText = .ok here
  isDir : disk.kind? here = some true
  unreserved : ∀ names, names ≠ [] → disk.kind? (here ++ names) = some true →
    Node.isReserved names = false

/-- Whether a disk can be watched is settled by what a walk lists. -/
theorem watchable_of_descendants (proper : disk.Proper)
    (located : disk.locate cwd root.toText = .ok here) (isDir : disk.kind? here = some true)
    (listed : disk.descendants.all (fun d =>
      !isNameTooLong (d.1.getLast?.getD "") &&
        !(d.2.isDir && here.isPrefixOf d.1 && d.1 != here && Node.isReserved d.1)) = true) :
    Watchable cwd here root disk where
  proper := proper
  short place name there := by
    obtain ⟨n, found⟩ := Option.ne_none_iff_exists'.1 (mt Node.kind?_eq_none_iff.2 there)
    have walked := (Node.mem_descendants_iff proper).2 ⟨by simp, found⟩
    have both := List.all_eq_true.1 listed _ walked
    rw [Bool.and_eq_true] at both
    simpa using both.1
  located := located
  isDir := isDir
  unreserved names hne dir := by
    obtain ⟨es, found⟩ := Node.exists_of_isDir dir
    have hne' := List.append_ne_nil_of_right_ne_nil here hne
    have both := List.all_eq_true.1 listed _ ((Node.mem_descendants_iff proper).2 ⟨hne', found⟩)
    have last : Node.isReserved (here ++ names) = Node.isReserved names := by
      rw [Node.isReserved, Node.isReserved, List.getLast?_append_of_ne_nil _ hne]
    have below : here.isPrefixOf (here ++ names) = true :=
      List.isPrefixOf_iff_prefix.2 (List.prefix_append here names)
    rw [Bool.and_eq_true, last, below] at both
    simpa [Node.isDir, hne] using both.2

namespace Watchable

variable (w : Watchable cwd here root disk)

include w

/-- Where a directory can be watched it can be scanned. -/
theorem scannable : Scannable cwd here root disk := ⟨w.proper, w.short, w.located, w.isDir⟩

/-- A directory below the watched one is shown. -/
theorem shown?_of_isDir {names : List String} (hne : names ≠ [])
    (dir : disk.kind? (here ++ names) = some true) :
    shown? here (here ++ names) = some (joinNames names) := by
  rw [shown?_below here hne, if_neg (by simp [w.unreserved names hne dir])]

theorem exists_scanPaths (rooted : ∀ name ∈ root.parts, IsPart name) :
    ∃ found, disk.scanPaths cwd root = .ok found ∧
      ∀ path, path ∈ found ↔ Listed here disk path := by
  obtain ⟨found, scanned, _, listed⟩ := w.scannable.exists_scanPaths rooted
  exact ⟨found, scanned, listed⟩

/-- Nothing is listed at and below what is there and not shown. -/
theorem not_listedAt_of_hidden (there : disk.kind? place = some b) (off : ¬ place <+: here)
    (hidden : shown? here place = none) : ¬ ListedAt here disk place path := by
  rintro ⟨q, shown, file⟩
  by_cases hq : q = []
  · rw [hq, List.append_nil, hidden] at shown
    cases shown
  · have dir : disk.kind? place = some true :=
      Node.kind?_of_below file hq
    by_cases inside : here <+: place
    · obtain ⟨names, rfl⟩ := inside
      rw [w.shown?_of_isDir (ne_nil_of_not_above off) dir] at hidden
      cases hidden
    · rw [shown?_outside inside off] at shown
      cases shown

end Watchable

/-! ## Changes of a disk -/

/-- A change of a disk. -/
inductive DiskChange (α : Type) where
  /-- A file, a link, or a directory with everything in it appears where nothing was. -/
  | make (place : Place) (node : Node α)
  /-- What is at a place goes, and everything below it. -/
  | remove (place : Place)
  /-- What is at a place is renamed, and may replace what is at the other place. -/
  | move (old new : Place)

/-- The places that a change is about. -/
def DiskChange.places : DiskChange α → List Place
  | .make place _ | .remove place => [place]
  | .move old new => [old, new]

/-- The disk after a change, unless it refuses the change. To rename something to its own place is
no change. -/
def DiskChange.apply (disk : Node α) : DiskChange α → Option (Node α)
  | .make place node => if (disk.get? place).isSome then none else disk.put place node
  | .remove place => if (disk.get? place).isSome then some (disk.erase place) else none
  | .move old new => if old = new then none else (disk.move old new).toOption

theorem of_apply_make (h : (DiskChange.make place node).apply disk = some disk') :
    disk.kind? place = none ∧ disk.put place node = some disk' := by
  rw [DiskChange.apply] at h
  split at h
  · cases h
  · rename_i missing
    exact ⟨Node.kind?_eq_none_iff.2 (by simpa using missing), h⟩

theorem of_apply_remove (h : (DiskChange.remove place).apply disk = some disk') :
    disk.kind? place ≠ none ∧ disk' = disk.erase place := by
  rw [DiskChange.apply] at h
  split at h
  · rename_i there
    refine ⟨fun missing => ?_, (Option.some.inj h).symm⟩
    rw [Node.kind?_eq_none_iff.1 missing] at there
    cases there
  · cases h

theorem of_apply_move {old new : Place} (h : (DiskChange.move old new).apply disk = some disk') :
    old ≠ new ∧ disk.move old new = .ok disk' := by
  rw [DiskChange.apply] at h
  split at h
  · cases h
  · rename_i apart
    refine ⟨apart, ?_⟩
    cases moved : disk.move old new with
    | error e =>
      rw [moved] at h
      cases h
    | ok n =>
      rw [moved] at h
      rw [Option.some.inj h]

/-- **The listing after something appeared.** -/
theorem listed_make (h : (DiskChange.make place node).apply disk = some disk') :
    Listed here disk' path ↔ Listed here disk path ∨ ListedAt here disk' place path := by
  obtain ⟨missing, put⟩ := of_apply_make h
  rw [listed_iff place]
  refine or_congr_left ⟨?_, ?_⟩
  · rintro ⟨r, apart, shown, file⟩
    rw [Node.kind?_put put apart] at file
    exact ⟨r, shown, file⟩
  · rintro ⟨r, shown, file⟩
    have apart : ¬ place <+: r := by
      rintro ⟨q, rfl⟩
      rw [Node.kind?_below_none missing q] at file
      cases file
    exact ⟨r, apart, shown, by rw [Node.kind?_put put apart, file]⟩

/-- **The listing after something went.** -/
theorem listed_remove (h : (DiskChange.remove place).apply disk = some disk') (hp : place ≠ []) :
    Listed here disk' path ↔ ListedApart here disk place path := by
  obtain ⟨_, rfl⟩ := of_apply_remove h
  constructor
  · rintro ⟨r, shown, file⟩
    have apart : ¬ place <+: r := by
      rintro ⟨q, rfl⟩
      rw [Node.kind?, Node.get?_erase hp] at file
      cases file
    exact ⟨r, apart, shown, by rwa [Node.kind?_erase apart] at file⟩
  · rintro ⟨r, apart, shown, file⟩
    exact ⟨r, shown, by rwa [Node.kind?_erase apart]⟩

/-- **The listing after something moved.** -/
theorem listed_move {old new : Place} (h : (DiskChange.move old new).apply disk = some disk')
    (hold : old ≠ []) :
    Listed here disk' path ↔ ListedApart here disk old path ∨ ListedAt here disk' new path := by
  obtain ⟨apart, moved⟩ := of_apply_move h
  obtain ⟨there, gone, still⟩ := Node.kind?_move moved apart hold
  constructor
  · rintro ⟨r, shown, file⟩
    by_cases at' : new <+: r
    · obtain ⟨q, rfl⟩ := at'
      exact Or.inr ⟨q, shown, file⟩
    · have off : ¬ old <+: r := by
        rintro ⟨q, rfl⟩
        rw [gone] at file
        cases file
      exact Or.inl ⟨r, off, shown, by rwa [still r off at'] at file⟩
  · rintro (⟨r, off, shown, file⟩ | ⟨q, shown, file⟩)
    · by_cases at' : new <+: r
      · -- A file that stood at the new place was replaced by a file.
        obtain ⟨q, rfl⟩ := at'
        by_cases hq : q = []
        · subst hq
          have there := there []
          rw [List.append_nil] at shown file there
          rw [List.append_nil, Node.kind?_of_move moved apart file] at there
          exact ⟨new, shown, there⟩
        · rw [Node.kind?_below_of_move moved apart hq] at file
          cases file
      · exact ⟨r, shown, by rwa [still r off at']⟩
    · exact ⟨_, shown, file⟩

end TagSearch
