import TagSearch.Catalog.Action
import TagSearch.Proofs.Catalog.Consistency
import TagSearch.Proofs.Catalog.Runs

/-!
# What becomes of the recorded files

An action does three things to the recorded files: a file gets another path or presence, a file goes
together with its tags, and paths are recorded anew under the next numbers. Which of this happens to
a file depends on its path and its presence only, never on its number.

* `Fate` says what becomes of a file at a path.
* `Catalog.Turns` says that the tables are those that a fate and some new paths make.
* `Catalog.turns_place`, `turns_markMissing`, `turns_rename` and `turns_sync`: the fates of the
  operations on single paths and of scans.
-/

namespace TagSearch

/-- Where a file is recorded, and whether it is present. -/
abbrev Standing := String × Bool

/-- What becomes of a file: where it is recorded afterwards, or nothing if its record goes. -/
abbrev Fate := Standing → Option Standing

/-- The standing of a recorded file. -/
def FileRecord.standing (f : FileRecord) : Standing := (f.path, f.present)

/-- A recorded file that meets its fate; it keeps its number. -/
def FileRecord.meet (fate : Fate) (f : FileRecord) : Option FileRecord :=
  (fate f.standing).map fun s => ⟨f.id, s.1, s.2⟩

theorem FileRecord.meet_eq_some_iff {fate : Fate} {f g : FileRecord} :
    f.meet fate = some g ↔ fate f.standing = some g.standing ∧ g.id = f.id := by
  rw [meet, Option.map_eq_some_iff]
  constructor
  · rintro ⟨s, hs, rfl⟩
    exact ⟨hs, rfl⟩
  · rintro ⟨hs, id⟩
    exact ⟨g.standing, hs, by rw [← id]; rfl⟩

namespace Catalog

variable {c d : Catalog}

/-- Paths recorded as present under consecutive numbers. -/
def numbered (n : Int) : List String → List FileRecord
  | [] => []
  | path :: paths => ⟨n, path, true⟩ :: numbered (n + 1) paths

/-- Whether a path is recorded. -/
def records (c : Catalog) (path : String) : Bool := (c.find? path).isSome

/-- Whether the file of a tag does not go. -/
def keeps (c : Catalog) (fate : Fate) (t : Int × String) : Bool :=
  c.files.any fun f => f.id == t.1 && (fate f.standing).isSome

/-- The tables that a fate of the files and new paths make of other tables. -/
structure Turns (c d : Catalog) (fate : Fate) (new : List String) : Prop where
  files : d.files = c.files.filterMap (·.meet fate) ++ numbered c.nextId new
  tags : d.tags = c.tags.filter (c.keeps fate)

/-! ## Recorded paths -/

theorem records_iff {path : String} : c.records path = true ↔ ∃ f ∈ c.files, f.path = path := by
  simp [records, find?, List.find?_isSome]

theorem records_eq_false {path : String} (h : c.find? path = none) : c.records path = false := by
  rw [records, h]
  rfl

theorem find?_of_unknown {path : String} (h : c.records path = false) : c.find? path = none := by
  simpa [records] using h

theorem records_eq_true {path : String} {f : FileRecord} (h : c.find? path = some f) :
    c.records path = true := by
  rw [records, h]
  rfl

theorem mem_newPaths {found : List String} {path : String} :
    path ∈ c.newPaths found ↔ path ∈ found ∧ c.find? path = none := by
  rw [newPaths, (List.mergeSort_perm _ _).mem_iff, List.mem_eraseDups, List.mem_filter,
    Option.isNone_iff_eq_none]

theorem nextId_insert (c : Catalog) (path : String) : (c.insert path).nextId = c.nextId + 1 := by
  have ids : (c.insert path).files.map (·.id) = c.files.map (·.id) ++ [c.nextId] := by
    rw [insert, List.map_append]
    rfl
  rw [nextId, ids]
  cases h : c.files.map (·.id) with
  | nil => rfl
  | cons i is =>
    have next : c.nextId = is.foldl max i + 1 := by rw [nextId, h]
    rw [List.cons_append]
    dsimp only
    rw [List.foldl_append, List.foldl_cons, List.foldl_nil, next]
    omega

/-- Paths recorded one after the other get consecutive numbers. -/
theorem foldl_insert (c : Catalog) (paths : List String) :
    paths.foldl insert c = { c with files := c.files ++ numbered c.nextId paths } := by
  induction paths generalizing c with
  | nil => rw [List.foldl_nil, numbered, List.append_nil]
  | cons path paths ih =>
    rw [List.foldl_cons, ih, nextId_insert, insert, numbered, List.append_assoc]
    rfl

theorem mem_numbered {n : Int} {paths : List String} {f : FileRecord} (h : f ∈ numbered n paths) :
    f.path ∈ paths ∧ f.present = true ∧ n ≤ f.id := by
  induction paths generalizing n with
  | nil => cases h
  | cons path paths ih =>
    rcases List.mem_cons.1 h with rfl | h
    · exact ⟨List.mem_cons_self, rfl, Int.le_refl _⟩
    · obtain ⟨mem, present, low⟩ := ih h
      exact ⟨List.mem_cons_of_mem _ mem, present, by omega⟩

theorem map_path_numbered (n : Int) (paths : List String) :
    (numbered n paths).map (·.path) = paths := by
  induction paths generalizing n with
  | nil => rfl
  | cons path paths ih => rw [numbered, List.map_cons, ih]

/-! ## Turning tables -/

namespace Turns

variable {e : Catalog} {fate fate' : Fate} {new : List String}

/-- A fate matters only where a file stands. -/
theorem congr (h : c.Turns d fate new)
    (same : ∀ f ∈ c.files, fate f.standing = fate' f.standing) : c.Turns d fate' new where
  files := by
    rw [h.files, List.filterMap_congr fun f hf => ?_]
    rw [FileRecord.meet, FileRecord.meet, same f hf]
  tags := by
    rw [h.tags]
    refine List.filter_congr fun t _ => ?_
    rw [keeps, keeps, Bool.eq_iff_iff, List.any_eq_true, List.any_eq_true]
    refine exists_congr fun f => and_congr_right fun hf => ?_
    rw [same f hf]

theorem mem_files (h : c.Turns d fate new) {g : FileRecord} :
    g ∈ d.files ↔ (∃ f ∈ c.files, f.meet fate = some g) ∨ g ∈ numbered c.nextId new := by
  rw [h.files, List.mem_append, List.mem_filterMap]

theorem mem_tags (h : c.Turns d fate new) {t : Int × String} :
    t ∈ d.tags ↔ t ∈ c.tags ∧ ∃ f ∈ c.files, f.id = t.1 ∧ (fate f.standing).isSome = true := by
  rw [h.tags, List.mem_filter, keeps, List.any_eq_true]
  simp only [Bool.and_eq_true, beq_iff_eq]

/-- The standings after a turn. -/
theorem mem_standings (h : c.Turns d fate new) {s : Standing} :
    s ∈ d.files.map (·.standing) ↔
      (∃ r ∈ c.files.map (·.standing), fate r = some s) ∨ (s.1 ∈ new ∧ s.2 = true) := by
  rw [h.files, List.map_append, List.mem_append]
  refine or_congr ?_ ?_
  · simp only [List.mem_map, List.mem_filterMap]
    constructor
    · rintro ⟨g, ⟨f, hf, meets⟩, rfl⟩
      exact ⟨_, ⟨f, hf, rfl⟩, (FileRecord.meet_eq_some_iff.1 meets).1⟩
    · rintro ⟨_, ⟨f, hf, rfl⟩, met⟩
      exact ⟨⟨f.id, s.1, s.2⟩, ⟨f, hf, FileRecord.meet_eq_some_iff.2 ⟨met, rfl⟩⟩, rfl⟩
  · constructor
    · intro mem
      obtain ⟨g, hg, rfl⟩ := List.mem_map.1 mem
      obtain ⟨path, present, _⟩ := mem_numbered hg
      exact ⟨path, present⟩
    · rintro ⟨path, present⟩
      rw [← map_path_numbered c.nextId new] at path
      obtain ⟨g, hg, e⟩ := List.mem_map.1 path
      exact List.mem_map.2 ⟨g, hg, Prod.ext e ((mem_numbered hg).2.1.trans present.symm)⟩

/-- Two turns are one if the first one records no new path. -/
theorem trans (h : c.Turns d fate []) (h' : d.Turns e fate' []) :
    c.Turns e (fun s => (fate s).bind fate') [] where
  files := by
    rw [h'.files, h.files]
    simp only [numbered, List.append_nil, List.filterMap_filterMap]
    refine List.filterMap_congr fun f _ => ?_
    rw [FileRecord.meet, FileRecord.meet]
    cases fate f.standing <;> rfl
  tags := by
    rw [h'.tags, h.tags, List.filter_filter]
    refine List.filter_congr fun t _ => ?_
    rw [keeps, keeps, keeps, h.files, Bool.eq_iff_iff]
    simp only [numbered, List.append_nil, Bool.and_eq_true, List.any_eq_true, beq_iff_eq,
      List.mem_filterMap, FileRecord.meet_eq_some_iff]
    constructor
    · rintro ⟨⟨g, ⟨f, hf, met, id⟩, owner, goes⟩, _⟩
      exact ⟨f, hf, id ▸ owner, by rw [met]; exact goes⟩
    · rintro ⟨f, hf, owner, goes⟩
      obtain ⟨s, met⟩ : ∃ s, fate f.standing = some s := by
        cases met : fate f.standing with
        | none => rw [met] at goes; cases goes
        | some s => exact ⟨s, rfl⟩
      rw [met] at goes
      exact ⟨⟨⟨f.id, s.1, s.2⟩, ⟨f, hf, met, rfl⟩, owner, goes⟩, f, hf, owner, by rw [met]; rfl⟩

end Turns

/-! ## Rows that stay and rows that go -/

/-- **Rows that are selected and changed**, the tags of those that stay, and new paths. -/
theorem turns_select (h : c.Consistent) {fate : Fate} {new : List String}
    (keep : FileRecord → Bool) (g : FileRecord → FileRecord) (keepTag : Int × String → Bool)
    (files : d.files = (c.files.filter keep).map g ++ numbered c.nextId new)
    (tags : d.tags = c.tags.filter keepTag)
    (meets : ∀ f ∈ c.files, f.meet fate = if keep f then some (g f) else none)
    (follow : ∀ f ∈ c.files, ∀ t ∈ c.tags, f.id = t.1 → keepTag t = keep f) :
    c.Turns d fate new where
  files := by
    rw [files, List.filterMap_congr meets, ← List.filterMap_eq_map, List.filterMap_filter]
    rfl
  tags := by
    rw [tags]
    refine List.filter_congr fun t ht => ?_
    have goes : ∀ f ∈ c.files, (fate f.standing).isSome = keep f := by
      intro f hf
      have whether := congrArg Option.isSome (meets f hf)
      rw [FileRecord.meet, Option.isSome_map] at whether
      rw [whether]
      cases keep f <;> rfl
    obtain ⟨f, hf, owner⟩ := h.tags_recorded t ht
    rw [follow f hf t ht owner, Bool.eq_iff_iff, keeps, List.any_eq_true]
    constructor
    · intro stays
      exact ⟨f, hf, by simp [owner, goes f hf, stays]⟩
    · rintro ⟨f', hf', both⟩
      rw [Bool.and_eq_true, beq_iff_eq, goes f' hf'] at both
      rw [h.eq_of_id hf hf' (owner.trans both.1.symm)]
      exact both.2

/-- Rows that are changed and all stay, with all tags, and new paths. -/
theorem turns_map (h : c.Consistent) {fate : Fate} {new : List String}
    (g : FileRecord → FileRecord) (files : d.files = c.files.map g ++ numbered c.nextId new)
    (tags : d.tags = c.tags) (meets : ∀ f ∈ c.files, f.meet fate = some (g f)) :
    c.Turns d fate new :=
  turns_select h (fun _ => true) g (fun _ => true) (by rw [files, List.filter_true])
    (by rw [tags, List.filter_true]) meets fun _ _ _ _ _ => rfl

/-- In consistent tables the number of a file says the same as its path. -/
theorem Consistent.id_eq_iff (h : c.Consistent) {f g : FileRecord} (hf : f ∈ c.files)
    (hg : g ∈ c.files) : f.id = g.id ↔ f.path = g.path :=
  ⟨fun e => congrArg (·.path) (h.eq_of_id hf hg e), fun e => congrArg (·.id) (h.eq_of_path hf hg e)⟩

/-- The row of one file that is changed. -/
theorem turns_update (h : c.Consistent) {fate : Fate} {path : String} {f : FileRecord}
    {g : FileRecord → FileRecord} (found : c.find? path = some f)
    (meets : ∀ r ∈ c.files, r.meet fate = some (if r.path = path then g r else r)) :
    c.Turns (c.update f.id g) fate [] := by
  obtain ⟨hf, rfl⟩ := mem_of_find? found
  refine turns_map h _ (List.append_nil _).symm rfl fun r hr => ?_
  rw [meets r hr]
  simp only [h.id_eq_iff hr hf]

/-- A path that is not recorded, as a new one. -/
theorem turns_insert (h : c.Consistent) {fate : Fate} (path : String)
    (meets : ∀ f ∈ c.files, f.meet fate = some f) : c.Turns (c.insert path) fate [path] :=
  turns_map h id (by rw [List.map_id]; rfl) rfl meets

/-! ## Single paths -/

/-- A path becomes present or missing. -/
def markFate (path : String) (present : Bool) : Fate := fun s =>
  some (if s.1 = path then (path, present) else s)

/-- A file moves from one path to another; what was there goes. -/
def moveFate (old new : String) : Fate := fun s =>
  if s.1 = old then some (new, true) else if s.1 = new then none else some s

theorem meet_markFate (path : String) (present : Bool) (f : FileRecord) :
    f.meet (markFate path present) = some (if f.path = path then { f with present } else f) := by
  rw [FileRecord.meet, markFate, FileRecord.standing, Option.map_some]
  by_cases here : f.path = path
  · rw [if_pos here, if_pos here, ← here]
  · rw [if_neg here, if_neg here]

theorem meet_moveFate (old new : String) (f : FileRecord) :
    f.meet (moveFate old new) =
      if f.path = old then some { f with path := new, present := true }
      else if f.path = new then none else some f := by
  rw [FileRecord.meet, moveFate, FileRecord.standing]
  dsimp only
  split
  · rfl
  · split <;> rfl

theorem turns_place (h : c.Consistent) (path : String) :
    c.Turns (c.place path) (markFate path true) (if c.records path then [] else [path]) := by
  rw [place]
  cases found : c.find? path with
  | none =>
    rw [records_eq_false found]
    refine turns_insert h path fun f hf => ?_
    rw [meet_markFate, if_neg (find?_eq_none_iff.1 found f hf)]
  | some f =>
    rw [records_eq_true found]
    exact turns_update h found fun r _ => meet_markFate path true r

theorem turns_markMissing (h : c.Consistent) (path : String) :
    c.Turns (c.markMissing path) (markFate path false) [] := by
  rw [markMissing]
  cases found : c.find? path with
  | none =>
    refine turns_map h id (by simp [numbered]) rfl fun f hf => ?_
    rw [meet_markFate, if_neg (find?_eq_none_iff.1 found f hf), id]
  | some f => exact turns_update h found fun r _ => meet_markFate path false r

/-- **The move of a recorded file**: it keeps its number, and another file at the new path goes. -/
theorem turns_rename (h : c.Consistent) {old : String} (new : String)
    (recorded : c.records old = true) : c.Turns (c.rename old new) (moveFate old new) [] := by
  rw [rename]
  cases found : c.find? old with
  | none =>
    rw [records_eq_false found] at recorded
    cases recorded
  | some f =>
    obtain ⟨hf, rfl⟩ := mem_of_find? found
    cases there : c.find? new with
    | none =>
      refine turns_update h found fun r hr => ?_
      rw [meet_moveFate, if_neg (find?_eq_none_iff.1 there r hr)]
      split <;> rfl
    | some g =>
      obtain ⟨hg, rfl⟩ := mem_of_find? there
      dsimp only
      by_cases same : g.id = f.id
      · rw [if_pos same]
        refine turns_update h found fun r hr => ?_
        rw [meet_moveFate, ← (h.id_eq_iff hg hf).1 same]
        split <;> rfl
      · rw [if_neg same]
        have apart : g.path ≠ f.path := fun e => same ((h.id_eq_iff hg hf).2 e)
        refine turns_select h _ _ _ (List.append_nil _).symm rfl (fun r hr => ?_)
          fun r hr t _ owner => ?_
        · simp only [meet_moveFate, bne_iff_ne, ne_eq, h.id_eq_iff hr hf, h.id_eq_iff hr hg]
          by_cases here : r.path = f.path
          · rw [if_pos here, if_pos (fun e => apart (e.symm.trans here)), if_pos here]
          · rw [if_neg here, if_neg here]
            by_cases gone : r.path = g.path
            · rw [if_pos gone, if_neg (not_not_intro gone)]
            · rw [if_neg gone, if_pos gone]
        · rw [← owner]

/-- The move of a path that is not recorded records the new path. -/
theorem turns_rename_unknown (h : c.Consistent) {old : String} (new : String)
    (unknown : c.records old = false) :
    c.Turns (c.rename old new) (markFate new true) (if c.records new then [] else [new]) := by
  rw [rename, find?_of_unknown unknown]
  exact turns_place h new

/-! ## Scans -/

/-- A path that a scan finds becomes present; the others become missing, or go. -/
def scanFate (found : List String) (prune : Bool) : Fate := fun s =>
  if found.contains s.1 then some (s.1, true) else if prune then none else some (s.1, false)

/-- New paths are present, and a scan finds all of them. -/
theorem mem_numbered_newPaths {n : Int} {found : List String} {f : FileRecord}
    (hf : f ∈ numbered n (c.newPaths found)) : found.contains f.path = true ∧ f.present = true := by
  obtain ⟨path, present, _⟩ := mem_numbered hf
  exact ⟨List.contains_iff_mem.2 (mem_newPaths.1 path).1, present⟩

/-- **A scan** makes the paths found present, under their old numbers or under new ones. -/
theorem turns_sync (h : c.Consistent) (found : List String) (prune : Bool) :
    c.Turns (c.sync found prune) (scanFate found prune) (c.newPaths found) := by
  have still : (numbered c.nextId (c.newPaths found)).map ({ · with present := true }) =
      numbered c.nextId (c.newPaths found) := by
    refine (List.map_congr_left fun f hf => ?_).trans (List.map_id _)
    rw [← (mem_numbered_newPaths hf).2, id]
  rw [sync, foldl_insert]
  cases prune with
  | false =>
    refine turns_map h (fun f => { f with present := found.contains f.path }) ?_ rfl ?_
    · dsimp only
      rw [if_neg Bool.false_ne_true, List.map_append]
      conv_rhs => rw [← still]
      refine congrArg _ (List.map_congr_left fun f hf => ?_)
      rw [(mem_numbered_newPaths hf).1]
    · intro f _
      rw [FileRecord.meet, scanFate, FileRecord.standing]
      cases found.contains f.path <;> rfl
  | true =>
    have kept : (numbered c.nextId (c.newPaths found)).filter (fun f => found.contains f.path) =
        numbered c.nextId (c.newPaths found) :=
      List.filter_eq_self.2 fun f hf => (mem_numbered_newPaths hf).1
    have gone : (c.files ++ numbered c.nextId (c.newPaths found)).filter
        (fun f => !found.contains f.path) = c.files.filter fun f => !found.contains f.path := by
      have none : (numbered c.nextId (c.newPaths found)).filter
          (fun f => !found.contains f.path) = [] := by
        refine List.filter_eq_nil_iff.2 fun f hf => ?_
        rw [(mem_numbered_newPaths hf).1]
        decide
      rw [List.filter_append, none, List.append_nil]
    refine turns_select h (fun f => found.contains f.path) ({ · with present := true }) _
      ?_ rfl ?_ ?_
    · show ((c.files ++ _).filter fun f => found.contains f.path).map _ = _
      rw [List.filter_append, kept, List.map_append, still]
    · intro f _
      rw [FileRecord.meet, scanFate, FileRecord.standing]
      cases found.contains f.path <;> rfl
    · intro f hf t _ owner
      -- The number of a file that is found is not among those of the files that are not found.
      rw [gone, Bool.eq_iff_iff, Bool.not_eq_true', List.contains_eq_mem, decide_eq_false_iff_not,
        List.mem_map]
      constructor
      · intro stays
        by_contra lost
        exact stays ⟨f, List.mem_filter.2 ⟨hf, by simpa using lost⟩, owner⟩
      · rintro here ⟨g, hg, same⟩
        obtain ⟨hg, lost⟩ := List.mem_filter.1 hg
        rw [h.eq_of_id hg hf (same.trans owner.symm), here] at lost
        cases lost

end Catalog

end TagSearch
