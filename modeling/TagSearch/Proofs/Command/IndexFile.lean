import TagSearch.Command.IndexFile
import TagSearch.Proofs.Disk.Leaves

/-!
# Sessions on index files

While a session lasts its index is on the disk, and nothing beside it is in the way. When it is left
only files go, so that the index can be opened again, as it was left. A session on an index that
exists is also entered without a change to any directory or link. So the index of the directory is,
when the session was left, the one that it left.

* `Node.Thins` is what happens to a disk on which files are emptied or go.
* `Host.storedIndex?` is the index of a directory.
* `IndexSession.Ready` is what holds while a session lasts, and `Host.ready_of_enter` tells that it
  holds from the start.
* `IndexSession.Ready.leave`: what is on the disk when the session was left.
* `Host.of_openIndex`: what is opened if there is an index.
* `IndexSession.IsOn.storedIndex?_leave`: what is found when the session on it was left.
-/

namespace TagSearch

open Node (IsName IsFree)

/-! ## Files that are emptied or go -/

namespace Node

variable {disk disk' disk'' : Node Content} {p : Place}

/-- There is something at a place, and not an empty file. -/
def IsFilled (disk : Node Content) (p : Place) : Prop :=
  ∃ n, disk.get? p = some n ∧ n ≠ .file (.text "")

/-- Two disks have the same directories and links, and no file of the second one is filled where
there is none, or an empty one, on the first. -/
structure Thins (disk disk' : Node Content) : Prop where
  frame : disk.SameFrame disk'
  filled : ∀ p, disk'.IsFilled p → disk.IsFilled p

namespace Thins

theorem refl (disk : Node Content) : disk.Thins disk := ⟨.refl disk, fun _ h => h⟩

theorem trans (h : disk.Thins disk') (h' : disk'.Thins disk'') : disk.Thins disk'' :=
  ⟨h.frame.trans h'.frame, fun p full => h.filled p (h'.filled p full)⟩

/-- Directories are the same already, so that only files and links are to be looked at. -/
theorem of_leaves (frame : disk.SameFrame disk') (leaves : ∀ p m, m.isDir = false →
    m ≠ .file (.text "") → disk'.get? p = some m → disk.IsFilled p) : disk.Thins disk' := by
  refine ⟨frame, fun p ⟨n, found, full⟩ => ?_⟩
  cases dir : n.isDir with
  | false => exact leaves p n dir full found
  | true =>
    have kind : disk'.kind? p = some true := by rw [kind?, found, Option.map_some, dir]
    obtain ⟨es, there⟩ := exists_of_isDir ((frame.dirs p).2 kind)
    exact ⟨_, there, by rintro ⟨⟩⟩

/-- A file may be put if it is empty, or if one that is not empty makes room for it. -/
theorem put {content : Content} (put : disk.put p (.file content) = some disk')
    (free : disk.IsFree p) (names : ∀ name ∈ p, IsName name)
    (filled : content ≠ .text "" → disk.IsFilled p) : disk.Thins disk' := by
  refine of_leaves (.put put free names) fun q m leaf full found => ?_
  by_cases below : p <+: q
  · obtain ⟨r, rfl⟩ := below
    rw [get?_put put] at found
    cases r with
    | nil =>
      obtain rfl := Option.some.inj ((get?_nil _).symm.trans found)
      rw [List.append_nil]
      exact filled fun empty => full (congrArg _ empty)
    | cons => cases found
  · exact ⟨m, (get?_put_eq_some_iff put below leaf).1 found, full⟩

theorem erase (hp : p ≠ []) (free : disk.IsFree p) : disk.Thins (disk.erase p) := by
  refine of_leaves (.erase hp free) fun q m leaf full found => ?_
  by_cases below : p <+: q
  · obtain ⟨r, rfl⟩ := below
    rw [get?_erase hp] at found
    cases found
  · exact ⟨m, (get?_erase_eq_some_iff below leaf).1 found, full⟩

/-- **What a text names on the second disk** it names on the first. -/
theorem stat (h : disk.Thins disk') (proper : disk.Proper) {cwd : Place} {text : String}
    {n : Node Content} (found : disk'.stat cwd text = .ok n) (full : n ≠ .file (.text "")) :
    ∃ m, disk.stat cwd text = .ok m ∧ m ≠ .file (.text "") := by
  obtain ⟨place, led, there⟩ := stat_eq_ok_iff.1 found
  obtain ⟨m, there, full⟩ := h.filled place ⟨n, there, full⟩
  exact ⟨m, stat_eq_ok_iff.2 ⟨place, (h.frame.symm proper).grows.follow led, there⟩, full⟩

end Thins

end Node

/-! ## Companions -/

namespace Companion

variable {index : Place}

theorem place_ne_nil (c : Companion) (index : Place) : c.place index ≠ [] :=
  List.append_ne_nil_of_right_ne_nil _ (List.cons_ne_nil _ _)

/-- A name that is continued as that of a companion. -/
theorem isName_append_suffix {name : String} (h : IsName name) (c : Companion) :
    IsName (name ++ c.suffix) := by
  obtain ⟨full, -, -, slash, nul⟩ := h
  have dash : '-' ∈ (name ++ c.suffix).toList := by
    rw [String.toList_append]
    cases c <;> exact List.mem_append_right _ (by decide)
  refine ⟨fun e => ?_, fun e => ?_, fun e => ?_, ?_, ?_⟩
  · exact absurd (e ▸ dash) (by decide)
  · exact absurd (e ▸ dash) (by decide)
  · exact absurd (e ▸ dash) (by decide)
  · rw [String.toList_append, List.mem_append, not_or]
    exact ⟨slash, by cases c <;> decide⟩
  · rw [String.toList_append, List.mem_append, not_or]
    exact ⟨nul, by cases c <;> decide⟩

theorem isName_of_mem_place (named : ∀ name ∈ index, IsName name) (ne : index ≠ [])
    (c : Companion) : ∀ name ∈ c.place index, IsName name := by
  refine List.forall_mem_append.2 ⟨fun name mem => named name (List.mem_of_mem_dropLast mem), ?_⟩
  refine List.forall_mem_singleton.2 (isName_append_suffix ?_ c)
  rw [List.getLast?_eq_some_getLast ne]
  exact named _ (List.getLast_mem ne)

/-- Neither of two entries of a directory lies below the other. -/
theorem not_isPrefix_concat {dir : Place} {name name' : String} (other : name ≠ name') :
    ¬ dir ++ [name] <+: dir ++ [name'] := by
  intro lead
  exact other (List.cons_prefix_cons.1 ((List.prefix_append_right_inj dir).1 lead)).1

theorem place_not_isPrefix {c c' : Companion} (other : c ≠ c') (index : Place) :
    ¬ c.place index <+: c'.place index := by
  refine not_isPrefix_concat fun same => other ?_
  have tails : c.suffix = c'.suffix := by simpa using same
  revert tails
  cases c <;> cases c' <;> decide

/-- An index and a companion of it lie side by side. -/
theorem place_apart (ne : index ≠ []) (c : Companion) :
    ¬ c.place index <+: index ∧ ¬ index <+: c.place index := by
  obtain ⟨dir, name, rfl⟩ : ∃ dir name, index = dir ++ [name] :=
    ⟨_, _, (List.dropLast_concat_getLast ne).symm⟩
  have other : name ++ c.suffix ≠ name := by
    intro same
    have sizes := congrArg String.length same
    rw [String.length_append] at sizes
    cases c <;> simp [suffix] at sizes
  rw [place, List.dropLast_concat, List.getLast?_concat, Option.getD_some]
  exact ⟨not_isPrefix_concat other, not_isPrefix_concat other.symm⟩

/-- The directory of an index lies above its companions. -/
theorem place_not_isPrefix_dropLast (c : Companion) (index : Place) :
    ¬ c.place index <+: index.dropLast := fun lead => by
  simpa [place] using lead.length_le

section

variable {disk disk' : Node Content} {c : Companion}

/-- What is not in the way is no directory. -/
theorem kind?_of_not_blocks {isNew : Bool} (h : c.blocks disk index isNew = false) :
    disk.kind? (c.place index) ≠ some true := by
  intro dir
  obtain ⟨es, found⟩ := Node.exists_of_isDir dir
  rw [blocks, found] at h
  cases h

/-- A log or a memory that is not in the way of an index that exists is a file, or there is none. -/
theorem isFree_of_not_blocks (h : c.blocks disk index false = false) (other : c ≠ .journal) :
    disk.IsFree (c.place index) := by
  refine ⟨kind?_of_not_blocks h, fun t link => ?_⟩
  rw [blocks, link] at h
  dsimp only at h
  split at h
  all_goals
    cases c with
    | journal => exact other rfl
    | log | memory => cases h

/-- Where there is nothing, nothing is in the way. -/
theorem not_blocks_of_none {isNew : Bool} (none : disk.get? (c.place index) = none) :
    c.blocks disk index isNew = false := by
  rw [blocks, none]

/-- A journal is in the way of an index that exists if it is a directory, or a link that leads to
something other than an empty file. -/
theorem journal_blocks_iff : journal.blocks disk index false = true ↔
    disk.kind? (journal.place index) = some true ∨
    (∃ t, disk.get? (journal.place index) = some (.link t)) ∧
      ∃ n, disk.stat [] (PathText.ofPlace (journal.place index)).toText = .ok n ∧
        n ≠ .file (.text "") := by
  rw [blocks, Node.kind?]
  cases disk.get? (journal.place index) with
  | none => simp
  | some n =>
    cases n with
    | file | dir => simp [Node.isDir]
    | link t =>
      dsimp only
      split
      · rename_i empty
        simp [Node.isDir, empty, blocksAsLink]
      · rename_i fault
        simp [Node.isDir, fault, blocksAsLink]
      · rename_i n other found
        simpa [Node.isDir, found, blocksAsLink] using other

/-- **A journal does not get in the way** when files are emptied or go. -/
theorem journal_not_blocks_of_thins (thins : disk.Thins disk') (proper : disk.Proper)
    (free : journal.blocks disk index false = false) :
    journal.blocks disk' index false = false := by
  refine eq_false_of_ne_true fun blocks => Bool.false_ne_true (free.symm.trans ?_)
  refine journal_blocks_iff.2 ?_
  rcases journal_blocks_iff.1 blocks with dir | ⟨⟨t, link⟩, n, found, full⟩
  · exact Or.inl ((thins.frame.dirs _).2 dir)
  · exact Or.inr ⟨⟨t, (thins.frame.links _ t).2 link⟩, thins.stat proper found full⟩

end

end Companion

/-! ## The index of a directory -/

namespace Host

variable {h h' : Host} {root : PathText} {index : StoredIndex} {s : IndexSession}

/-- The place that the index of a directory has, or would have. -/
def indexPlace? (h : Host) (root : PathText) : Option Place :=
  match h.disk.resolveFrom h.cwd (h.disk.linkRoutes h.cwd) .top (indexFile root).parts with
  | .ok r => some r.place
  | .error _ => none

/-- The index at a place. -/
def indexAt? (disk : Node Content) (place : Place) : Option StoredIndex :=
  match disk.get? place with
  | some (.file (.index index)) => some index
  | _ => none

/-- The index of a directory, if there is one. -/
def storedIndex? (h : Host) (root : PathText) : Option StoredIndex :=
  (h.indexPlace? root).bind (indexAt? h.disk)

theorem indexAt?_eq_some_iff {disk : Node Content} {place : Place} :
    indexAt? disk place = some index ↔ disk.get? place = some (.file (.index index)) := by
  rw [indexAt?]
  split
  · rename_i found
    rw [found]
    simp
  · rename_i other
    exact iff_of_false (fun h => nomatch h) fun found => other index found

/-- Where the index is depends on the links only. -/
theorem indexPlace?_of_sameFrame (frame : h.disk.SameFrame h'.disk) (proper : h.disk.Proper)
    (cwd : h'.cwd = h.cwd) (root : PathText) : h'.indexPlace? root = h.indexPlace? root := by
  rw [indexPlace?, indexPlace?, cwd, frame.resolveFrom proper]

end Host

/-! ## Sessions -/

/-- What holds on the host of a session while it lasts: its index is on the disk, and nothing beside
it is in the way. -/
structure IndexSession.Ready (s : IndexSession) : Prop where
  proper : s.host.disk.Proper
  top : s.host.disk.kind? [] = some true
  exists_index : ∃ index, s.host.disk.get? s.place = some (.file (.index index))
  fits : Host.isIndexPathTooLong s.place = false
  free : ∀ c ∈ [Companion.log, .memory], s.host.disk.IsFree (c.place s.place)
  journal : Companion.journal.blocks s.host.disk s.place false = false

/-- A session was entered on the index of a directory that exists on a host: files beside the index
came, and nothing but files will go with them. -/
structure IndexSession.IsOn (s : IndexSession) (h : Host) (root : PathText) : Prop where
  ready : s.Ready
  place : h.indexPlace? root = some s.place
  frame : h.disk.SameFrame s.host.disk
  cwd : s.host.cwd = h.cwd

variable {h : Host} {root : PathText} {place : Place} {index : StoredIndex} {s : IndexSession}

/-- An index lies in a directory, and its place consists of names. -/
theorem place_of_index {disk : Node Content} (proper : disk.Proper)
    (top : disk.kind? [] = some true)
    (found : disk.get? place = some (.file (.index index))) :
    place ≠ [] ∧ (∀ name ∈ place, IsName name) ∧ disk.IsFree place ∧
      disk.kind? place.dropLast = some true := by
  have kind : disk.kind? place = some false := by
    rw [Node.kind?, found]
    rfl
  have ne : place ≠ [] := by
    rintro rfl
    rw [top] at kind
    cases kind
  refine ⟨ne, proper.isName kind, Node.isFree_of_file found, ?_⟩
  rw [← List.dropLast_concat_getLast ne] at kind
  exact Node.kind?_of_below kind (List.cons_ne_nil _ _)

namespace Host

/-! ### Entering a session -/

theorem enter_eq_ok {session : Session} {isNew : Bool}
    (entered : h.enter place session isNew = .ok s) :
    (∀ c : Companion, c.blocks h.disk place isNew = false) ∧
    ∃ disk, h.disk.put place (.file (.index session.close)) = some disk ∧
      s = ⟨session, place, { h with disk }.withCompanions place isNew⟩ := by
  rw [enter] at entered
  split at entered
  · cases entered
  · rename_i free
    rw [List.any_eq_true, not_exists] at free
    split at entered
    · rename_i disk put
      refine ⟨fun c => eq_false_of_ne_true fun blocks => free c ⟨?_, blocks⟩, disk, put,
        (Except.ok.inj entered).symm⟩
      cases c <;> decide
    · cases entered

theorem enter_eq_error {session : Session} {isNew : Bool} {fault : OpenFault}
    (failed : h.enter place session isNew = .error fault) : fault = .unavailable := by
  rw [enter] at failed
  split at failed
  · exact (Except.error.inj failed).symm
  · split at failed
    · cases failed
    · exact (Except.error.inj failed).symm

/-- The companions of an index: the journal goes, or stays beside an index that exists, and there is
a log and a memory. -/
theorem exists_withCompanions (there : h.disk.kind? place.dropLast = some true) (isNew : Bool) :
    ∃ kept logged,
      (kept = h.disk ∧ isNew = false ∨ kept = h.disk.erase (Companion.journal.place place)) ∧
      kept.put (Companion.log.place place) (.file (.text "")) = some logged ∧
      logged.put (Companion.memory.place place) (.file (.text "")) =
        some (h.withCompanions place isNew).disk := by
  have aside (c : Companion) := c.place_not_isPrefix_dropLast place
  have add {d : Node Content} (dir : d.kind? place.dropLast = some true) (c : Companion) :
      ∃ d', d.put (c.place place) (.file (.text "")) = some d' ∧
        d'.kind? place.dropLast = some true := by
    obtain ⟨d', put⟩ := Node.exists_put dir (place.getLast?.getD "" ++ c.suffix) (.file (.text ""))
    exact ⟨d', put, (Node.kind?_put put (aside c)).trans dir⟩
  have through {kept : Node Content} (dir : kept.kind? place.dropLast = some true) :
      ∃ logged, kept.put (Companion.log.place place) (.file (.text "")) = some logged ∧
        logged.put (Companion.memory.place place) (.file (.text "")) =
          some ([Companion.log, .memory].foldl (fun d c =>
            (d.put (c.place place) (.file (.text ""))).getD d) kept) := by
    obtain ⟨logged, put, dir⟩ := add dir .log
    obtain ⟨final, put', _⟩ := add dir .memory
    refine ⟨logged, put, ?_⟩
    rw [List.foldl_cons, List.foldl_cons, List.foldl_nil, put, Option.getD_some, put',
      Option.getD_some]
  rw [withCompanions]
  dsimp only
  split
  · rename_i keeps
    obtain ⟨logged, first, second⟩ := through there
    refine ⟨h.disk, logged, Or.inl ⟨rfl, ?_⟩, first, second⟩
    rw [Bool.and_eq_true] at keeps
    simpa using keeps.1
  · obtain ⟨logged, first, second⟩ := through ((Node.kind?_erase (aside .journal)).trans there)
    exact ⟨_, logged, Or.inr rfl, first, second⟩

/-- **The companions of an index that exists** come while other files are emptied or go. -/
theorem thins_withCompanions (named : ∀ name ∈ place, IsName name) (ne : place ≠ [])
    (journal : h.disk.kind? (Companion.journal.place place) ≠ some true)
    (free : ∀ c ∈ [Companion.log, .memory], h.disk.IsFree (c.place place)) :
    h.disk.Thins (h.withCompanions place false).disk := by
  have add {d : Node Content} (thins : h.disk.Thins d) {c : Companion}
      (mem : c ∈ [Companion.log, .memory]) :
      h.disk.Thins ((d.put (c.place place) (.file (.text ""))).getD d) := by
    cases put : d.put (c.place place) (.file (.text "")) with
    | none => exact thins
    | some d' =>
      exact thins.trans (.put put (thins.frame.isFree (free c mem))
        (Companion.isName_of_mem_place named ne c) fun filled => (filled rfl).elim)
  rw [withCompanions]
  dsimp only [List.foldl_cons, List.foldl_nil]
  refine add (add ?_ List.mem_cons_self) (List.mem_cons_of_mem _ List.mem_cons_self)
  split
  · exact .refl _
  · rename_i kept
    refine .erase (Companion.place_ne_nil _ _) ⟨journal, fun t link => kept ?_⟩
    rw [link]
    rfl

/-- A session that has an index at its place is ready once the companions are there. -/
theorem ready_withCompanions {isNew : Bool} (proper : h.disk.Proper)
    (top : h.disk.kind? [] = some true)
    (found : h.disk.get? place = some (.file (.index index)))
    (fits : isIndexPathTooLong place = false)
    (journal : isNew = false → Companion.journal.blocks h.disk place false = false)
    (free : isNew = false → ∀ c ∈ [Companion.log, .memory], h.disk.IsFree (c.place place))
    (session : Session) : IndexSession.Ready ⟨session, place, h.withCompanions place isNew⟩ := by
  obtain ⟨ne, named, _, there⟩ := place_of_index proper top found
  obtain ⟨kept, logged, stays, put, put'⟩ := exists_withCompanions there isNew
  have names (c : Companion) := Companion.isName_of_mem_place named ne c
  have apart (c : Companion) := (c.place_apart ne).1
  have below (c : Companion) : ¬ c.place place <+: [] := fun lead =>
    Companion.place_ne_nil c place (List.prefix_nil.1 lead)
  have start : kept.Proper ∧ kept.kind? [] = some true ∧
      kept.get? place = some (.file (.index index)) := by
    rcases stays with ⟨rfl, -⟩ | rfl
    · exact ⟨proper, top, found⟩
    · exact ⟨proper.erase _, (Node.kind?_erase (below _)).trans top,
        (Node.get?_erase_eq_some_iff (apart _) rfl).2 found⟩
  refine ⟨?_, ?_, ⟨index, ?_⟩, fits, ?_, ?_⟩
  · exact (start.1.put put (Node.proper_file _) (names .log)).put put' (Node.proper_file _)
      (names .memory)
  · rw [Node.kind?_put put' (below _), Node.kind?_put put (below _), start.2.1]
  · refine (Node.get?_put_eq_some_iff put' (apart _) rfl).2 ?_
    exact (Node.get?_put_eq_some_iff put (apart _) rfl).2 start.2.2
  · refine List.forall_mem_cons.2 ⟨?_, List.forall_mem_singleton.2 ?_⟩
    · refine Node.isFree_of_file (a := .text "") ?_
      exact (Node.get?_put_eq_some_iff put' (Companion.place_not_isPrefix (by decide) _) rfl).2
        (Node.get?_put_self put)
    · exact Node.isFree_of_file (Node.get?_put_self put')
  · rcases stays with ⟨-, rfl⟩ | rfl
    · refine Companion.journal_not_blocks_of_thins ?_ proper (journal rfl)
      exact thins_withCompanions named ne (Companion.kind?_of_not_blocks (journal rfl)) (free rfl)
    · refine Companion.not_blocks_of_none ?_
      have beside {c c' : Companion} (other : c ≠ c') := Companion.place_not_isPrefix other place
      rw [Node.get?_put_of_apart put' (beside (by decide)) (beside (by decide)),
        Node.get?_put_of_apart put (beside (by decide)) (beside (by decide)),
        Node.get?_erase_self (Companion.place_ne_nil _ _)]

/-- **A session is ready when it was entered.** -/
theorem ready_of_enter {session : Session} {isNew : Bool} (proper : h.disk.Proper)
    (top : h.disk.kind? [] = some true) (named : ∀ name ∈ place, IsName name) (ne : place ≠ [])
    (fits : isIndexPathTooLong place = false)
    (old : isNew = false → ∃ index, h.disk.get? place = some (.file (.index index)))
    (entered : h.enter place session isNew = .ok s) :
    s.Ready ∧ s.session = session ∧ s.place = place ∧ s.host.cwd = h.cwd ∧
      (isNew = false → h.disk.SameFrame s.host.disk) := by
  obtain ⟨passed, disk, put, rfl⟩ := enter_eq_ok entered
  have found := Node.get?_put_self put
  have top' : disk.kind? [] = some true :=
    (Node.kind?_put put fun lead => ne (List.prefix_nil.1 lead)).trans top
  have written (e : isNew = false) : h.disk.Thins disk := by
    obtain ⟨index, there⟩ := old e
    obtain ⟨-, -, free, -⟩ := place_of_index proper top there
    exact .put put free named fun _ => ⟨_, there, by rintro ⟨⟩⟩
  have free (e : isNew = false) :
      ∀ c ∈ [Companion.log, .memory], disk.IsFree (c.place place) := by
    subst e
    intro c mem
    refine (written rfl).frame.isFree (Companion.isFree_of_not_blocks (passed c) ?_)
    rintro rfl
    revert mem
    decide
  have journal (e : isNew = false) : Companion.journal.blocks disk place false = false := by
    subst e
    exact Companion.journal_not_blocks_of_thins (written rfl) proper (passed .journal)
  refine ⟨ready_withCompanions (h := { h with disk }) (proper.put put (Node.proper_file _) named)
    top' found fits journal free session, rfl, rfl, rfl, fun e => ?_⟩
  refine (written e).frame.trans ?_
  subst e
  exact (thins_withCompanions (h := { h with disk }) named ne
    (Companion.kind?_of_not_blocks (journal rfl)) (free rfl)).frame

end Host

namespace IndexSession

/-! ### Leaving a session -/

/-- **What a session leaves**: its index, with nothing beside it in the way, while other files only
were emptied or went. -/
theorem Ready.leave (ready : s.Ready) (left : StoredIndex) :
    s.host.disk.Thins (s.leave left).disk ∧
    (s.leave left).disk.get? s.place = some (.file (.index left)) ∧
    ∀ c : Companion, c.blocks (s.leave left).disk s.place false = false := by
  obtain ⟨index, found⟩ := ready.exists_index
  obtain ⟨ne, named, free, there⟩ := place_of_index ready.proper ready.top found
  have apart (c : Companion) := c.place_apart ne
  let logless := s.host.disk.erase (Companion.log.place s.place)
  let emptied := logless.erase (Companion.memory.place s.place)
  have thins : s.host.disk.Thins emptied := by
    have first : s.host.disk.Thins logless :=
      .erase (Companion.place_ne_nil _ _) (ready.free _ List.mem_cons_self)
    refine first.trans (.erase (Companion.place_ne_nil _ _) (first.frame.isFree ?_))
    exact ready.free _ (List.mem_cons_of_mem _ List.mem_cons_self)
  have old : emptied.get? s.place = some (.file (.index index)) :=
    (Node.get?_erase_eq_some_iff (apart _).1 rfl).2
      ((Node.get?_erase_eq_some_iff (apart _).1 rfl).2 found)
  obtain ⟨disk, put⟩ := Node.exists_put ((thins.frame.dirs _).1 there) (s.place.getLast ne)
    (.file (.index left))
  rw [List.dropLast_concat_getLast ne] at put
  have final : (s.leave left).disk = disk := by
    show (emptied.put s.place (.file (.index left))).getD emptied = disk
    rw [put, Option.getD_some]
  have all : s.host.disk.Thins disk :=
    thins.trans (.put put (thins.frame.isFree free) named fun _ => ⟨_, old, by rintro ⟨⟩⟩)
  rw [final]
  refine ⟨all, Node.get?_put_self put, fun c => ?_⟩
  cases c with
  | journal => exact Companion.journal_not_blocks_of_thins all ready.proper ready.journal
  | log =>
    refine Companion.not_blocks_of_none (Node.kind?_eq_none_iff.1 ?_)
    rw [Node.kind?_put put (apart _).2, Node.kind?_erase (Companion.place_not_isPrefix (by decide) _),
      Node.kind?_eq_none_iff, Node.get?_erase_self (Companion.place_ne_nil _ _)]
  | memory =>
    refine Companion.not_blocks_of_none (Node.kind?_eq_none_iff.1 ?_)
    rw [Node.kind?_put put (apart _).2, Node.kind?_eq_none_iff,
      Node.get?_erase_self (Companion.place_ne_nil _ _)]

/-- **What a session leaves is the index of the directory**, if its path leads to it still. -/
theorem Ready.storedIndex?_leave (ready : s.Ready) (led : s.host.indexPlace? root = some s.place)
    (left : StoredIndex) : (s.leave left).storedIndex? root = some left := by
  obtain ⟨thins, found, -⟩ := ready.leave left
  have led' : (s.leave left).indexPlace? root = some s.place :=
    (Host.indexPlace?_of_sameFrame thins.frame ready.proper rfl root).trans led
  exact Option.bind_eq_some_iff.2 ⟨s.place, led', Host.indexAt?_eq_some_iff.2 found⟩

/-- What a session on an index that existed leaves is the index of the directory, and no directory
or link changed. -/
theorem IsOn.storedIndex?_leave (on : s.IsOn h root) (proper : h.disk.Proper) (left : StoredIndex) :
    (s.leave left).storedIndex? root = some left ∧ h.disk.SameFrame (s.leave left).disk := by
  have led := (Host.indexPlace?_of_sameFrame on.frame proper on.cwd root).trans on.place
  exact ⟨on.ready.storedIndex?_leave led left, on.frame.trans (on.ready.leave left).1.frame⟩

end IndexSession

namespace Host

/-! ### Opening an index that exists -/

theorem tryOpen_of_indexPlace? (led : h.indexPlace? root = some place)
    (found : h.disk.get? place = some (.file (.index index))) :
    h.tryOpen root =
      if isIndexPathTooLong place then .error .unavailable
      else h.enter place (.start index) false := by
  rw [indexPlace?] at led
  rw [tryOpen]
  split at led
  · rename_i r way
    obtain rfl := Option.some.inj led
    rw [way]
    dsimp only
    rw [found]
  · cases led

/-- An index that exists is opened unless something is in the way. -/
theorem exists_openIndex (proper : h.disk.Proper) (top : h.disk.kind? [] = some true)
    (led : h.indexPlace? root = some place)
    (found : h.disk.get? place = some (.file (.index index)))
    (fits : isIndexPathTooLong place = false)
    (free : ∀ c : Companion, c.blocks h.disk place false = false) :
    ∃ s, h.openIndex root = .ok s ∧ s.session = .start index := by
  obtain ⟨ne, _, _, dir⟩ := place_of_index proper top found
  obtain ⟨disk, put⟩ := Node.exists_put dir (place.getLast ne)
    (.file (.index (Session.start index).close))
  rw [List.dropLast_concat_getLast ne] at put
  refine ⟨⟨.start index, place, { h with disk }.withCompanions place false⟩, ?_, rfl⟩
  have none : [Companion.journal, .log, .memory].any (·.blocks h.disk place false) = false :=
    List.any_eq_false.2 fun c _ => by simp [free c]
  rw [openIndex, tryOpen_of_indexPlace? led found, fits, if_neg Bool.false_ne_true, enter, none,
    if_neg Bool.false_ne_true, put]

/-- An index that exists is opened as it is stored. -/
theorem openIndex_eq_ok (stored : h.storedIndex? root = some index)
    (opened : h.openIndex root = .ok s) :
    ∃ place, h.indexPlace? root = some place ∧
      h.disk.get? place = some (.file (.index index)) ∧ isIndexPathTooLong place = false ∧
      h.enter place (.start index) false = .ok s := by
  obtain ⟨place, led, at_⟩ := Option.bind_eq_some_iff.1 stored
  have found := indexAt?_eq_some_iff.1 at_
  refine ⟨place, led, found, ?_⟩
  rw [openIndex, tryOpen_of_indexPlace? led found] at opened
  split at opened
  · rename_i s' entered
    obtain rfl := Except.ok.inj opened
    split at entered
    · cases entered
    · rename_i fits
      exact ⟨eq_false_of_ne_true fits, entered⟩
  · cases opened
  · rename_i none
    split at none
    · cases none
    · cases enter_eq_error none

/-- **An index that exists is entered as it is stored.** -/
theorem of_openIndex (proper : h.disk.Proper) (top : h.disk.kind? [] = some true)
    (stored : h.storedIndex? root = some index) (opened : h.openIndex root = .ok s) :
    s.session = .start index ∧ s.IsOn h root := by
  obtain ⟨place, led, found, fits, entered⟩ := openIndex_eq_ok stored opened
  obtain ⟨ne, named, -, -⟩ := place_of_index proper top found
  obtain ⟨ready, session, rfl, cwd, frame⟩ :=
    ready_of_enter proper top named ne fits (fun _ => ⟨index, found⟩) entered
  exact ⟨session, ready, led, frame rfl, cwd⟩

/-! ### Opening any index -/

/-- The names of the path of an index. -/
theorem isRaw_of_mem_indexFile (named : ∀ name ∈ root.parts, IsName name) {name : String}
    (mem : name ∈ (indexFile root).parts) : IsRaw name := by
  have clean : ∀ name ∈ (root.join (.ofText indexFileName)).parts, '\x00' ∉ name.toList := by
    refine List.forall_mem_append.2 ⟨fun name mem => (named name mem).2.2.2.2, fun name mem => ?_⟩
    exact (Node.isStep_of_mem_ofText (by decide) mem).2
  refine (Node.isStep_of_mem_ofText (fun nul => ?_) mem).isRaw
  rw [String.toList_ofList] at nul
  exact Node.notMem_toText (by decide) (by decide) clean ((List.takeWhile_sublist _).subset nul)

/-- Where the path of an index arrives. -/
theorem resolved_indexFile (sound : h.disk.Sound) (top : h.disk.kind? [] = some true)
    (named : ∀ name ∈ root.parts, IsName name) : Node.Resolved h.disk
      (h.disk.resolveFrom h.cwd (h.disk.linkRoutes h.cwd) .top (indexFile root).parts) :=
  Node.resolved_resolveFrom sound (List.forall_mem_nil _) (Node.linkless_of_isDir top) fun _ mem =>
    isRaw_of_mem_indexFile named mem

/-- What is opened is an index, or a new one where there is no file. -/
theorem tryOpen_eq_ok (opened : h.tryOpen root = .ok s) :
    ∃ r session isNew,
      h.disk.resolveFrom h.cwd (h.disk.linkRoutes h.cwd) .top (indexFile root).parts = .ok r ∧
      isIndexPathTooLong r.place = false ∧ h.disk.kind? r.place ≠ some true ∧
      h.enter r.place session isNew = .ok s ∧
      (isNew = true ∧ session = .fresh ∨ isNew = false ∧ ∃ index,
        h.disk.get? r.place = some (.file (.index index)) ∧ session = .start index) := by
  rw [tryOpen] at opened
  split at opened
  · cases opened
  · rename_i r way
    split at opened
    · cases opened
    · rename_i fits
      refine ⟨r, ?_⟩
      rw [Node.kind?]
      cases found : h.disk.get? r.place with
      | none =>
        rw [found] at opened
        exact ⟨_, _, way, eq_false_of_ne_true fits, by rintro ⟨⟩, opened, Or.inl ⟨rfl, rfl⟩⟩
      | some n =>
        rw [found] at opened
        split at opened
        · rename_i index e
          obtain rfl := Option.some.inj e
          exact ⟨_, _, way, eq_false_of_ne_true fits, by rintro ⟨⟩, opened,
            Or.inr ⟨rfl, index, rfl, rfl⟩⟩
        · rename_i e
          cases e
        · rename_i e
          obtain rfl := Option.some.inj e
          exact ⟨_, _, way, eq_false_of_ne_true fits, by rintro ⟨⟩, opened, Or.inl ⟨rfl, rfl⟩⟩
        · cases opened
        · cases opened

/-- A new index is opened where there is no file, unless something is in the way. -/
theorem tryOpen_of_none {disk : Node Content} (led : h.indexPlace? root = some place)
    (none : h.disk.get? place = none) (fits : isIndexPathTooLong place = false)
    (free : ∀ c : Companion, c.blocks h.disk place true = false)
    (put : h.disk.put place (.file (.index Session.fresh.close)) = some disk) :
    h.tryOpen root = .ok ⟨.fresh, place, { h with disk }.withCompanions place true⟩ := by
  have free : [Companion.journal, .log, .memory].any (·.blocks h.disk place true) = false :=
    List.any_eq_false.2 fun c _ => by simp [free c]
  rw [indexPlace?] at led
  rw [tryOpen]
  split at led
  · rename_i r way
    obtain rfl := Option.some.inj led
    rw [way]
    dsimp only
    rw [fits, if_neg Bool.false_ne_true, none]
    dsimp only
    rw [enter, free, if_neg Bool.false_ne_true, put]
  · cases led

/-- No index is opened where nothing can be put. -/
theorem openIndex_of_closed (led : h.indexPlace? root = some place)
    (none : h.disk.get? place = none) (closed : ∀ n, h.disk.put place n = .none) :
    h.openIndex root = .error ⟨root⟩ := by
  have failed : h.tryOpen root = .error .unavailable := by
    rw [indexPlace?] at led
    rw [tryOpen]
    split at led
    · rename_i r way
      obtain rfl := Option.some.inj led
      rw [way]
      dsimp only
      rw [none]
      dsimp only
      rw [enter, closed]
      split
      · rfl
      · split <;> rfl
    · cases led
  rw [openIndex, failed]

/-- A file that holds no index is removed, and nothing else happens before an index is opened. -/
theorem exists_tryOpen (opened : h.openIndex root = .ok s) :
    ∃ disk, (disk = h.disk ∨ ∃ p, disk = h.disk.erase p) ∧
      { h with disk }.tryOpen root = .ok s := by
  rw [openIndex] at opened
  split at opened
  · rename_i first
    obtain rfl := Except.ok.inj opened
    exact ⟨h.disk, Or.inl rfl, first⟩
  · cases opened
  · rw [mapError_eq_ok_iff, removeIndex] at opened
    split at opened
    · refine ⟨_, ?_, opened⟩
      cases removed : h.disk.removeAt h.cwd (root.join (.ofText indexFileName)) with
      | error => exact Or.inl rfl
      | ok disk =>
        rw [Node.removeAt] at removed
        obtain ⟨p, _, removed⟩ := bind_eq_ok_iff.1 removed
        split at removed
        · exact Or.inr ⟨p, (Except.ok.inj removed).symm⟩
        · cases removed
    · exact ⟨h.disk, Or.inl rfl, opened⟩

/-- **A session is ready when an index was opened**, also on a new index. -/
theorem ready_of_openIndex (sound : h.disk.Sound) (top : h.disk.kind? [] = some true)
    (named : ∀ name ∈ root.parts, IsName name) (opened : h.openIndex root = .ok s) :
    s.Ready ∧ s.host.cwd = h.cwd ∧
      (s.session = .fresh ∨ ∃ index, s.session = .start index) := by
  obtain ⟨disk, removed, opened⟩ := exists_tryOpen opened
  have sound' : disk.Sound := by
    rcases removed with rfl | ⟨p, rfl⟩
    · exact sound
    · exact sound.erase p
  have top' : disk.kind? [] = some true := by
    rcases removed with rfl | ⟨p, rfl⟩
    · exact top
    · by_cases hp : p = []
      · rwa [hp, Node.erase]
      · exact (Node.kind?_erase fun lead => hp (List.prefix_nil.1 lead)).trans top
  obtain ⟨r, session, isNew, way, fits, noDir, entered, start⟩ := tryOpen_eq_ok opened
  have arrives := resolved_indexFile (h := { h with disk }) sound' top' named
  rw [way] at arrives
  have ne : r.place ≠ [] := fun e => noDir (e ▸ top')
  have old (e : isNew = false) : ∃ index, disk.get? r.place = some (.file (.index index)) := by
    rcases start with ⟨new, -⟩ | ⟨-, index, found, -⟩
    · rw [new] at e
      cases e
    · exact ⟨index, found⟩
  obtain ⟨ready, session, -, cwd, -⟩ :=
    ready_of_enter (h := { h with disk }) sound'.proper top' arrives.1 ne fits old entered
  rw [session]
  refine ⟨ready, cwd, start.imp And.right ?_⟩
  rintro ⟨-, index, -, session⟩
  exact ⟨index, session⟩

end Host

/-- **What a session left is opened again**, if the path of the index leads to it still. -/
theorem IndexSession.Ready.exists_openIndex (ready : s.Ready)
    (led : s.host.indexPlace? root = some s.place) (left : StoredIndex) :
    ∃ s', (s.leave left).openIndex root = .ok s' ∧ s'.session = .start left := by
  obtain ⟨thins, found, free⟩ := ready.leave left
  refine Host.exists_openIndex (thins.frame.proper ready.proper) ((thins.frame.dirs []).1 ready.top)
    ?_ found ready.fits free
  exact (Host.indexPlace?_of_sameFrame thins.frame ready.proper rfl root).trans led

end TagSearch
