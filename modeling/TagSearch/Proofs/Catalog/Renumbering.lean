import TagSearch.Proofs.Catalog.Directories
import Mathlib.Data.Set.Function

/-!
# Tables under other numbers

The numbers of files only tie tags to files. Two catalogs that differ in their numbers and in the
order of their rows match, and whatever is done to both, they match again, under numbers that may
be tied in a new way: a path that is recorded anew gets one number here and another one there.

* `Catalog.Matches`: the rows of one catalog are those of another one under other numbers.
* `Catalog.Matches.turn`: catalogs that match and meet the same fate match again.
* `Catalog.Matches.step`, `Catalog.Matches.sync`, `Catalog.Matches.addTags`, …: the operations.
-/

namespace TagSearch

/-- A recorded file under another number. -/
def FileRecord.renumber (σ : Int → Int) (f : FileRecord) : FileRecord := { f with id := σ f.id }

/-- A tag of a file that has another number. -/
def renumberTag (σ : Int → Int) (t : Int × String) : Int × String := (σ t.1, t.2)

namespace Catalog

/-- The files and tags of one catalog are those of another one under other numbers. -/
structure Matches (σ : Int → Int) (c d : Catalog) : Prop where
  injective : ∀ f ∈ c.files, ∀ g ∈ c.files, σ f.id = σ g.id → f.id = g.id
  files : d.files.Perm (c.files.map (·.renumber σ))
  tags : d.tags.Perm (c.tags.map (renumberTag σ))

variable {σ : Int → Int} {c d c' d' : Catalog} {fate : Fate}

namespace Matches

/-! ## What matching catalogs have in common -/

theorem renumber_mem (h : Matches σ c d) {f : FileRecord} (hf : f ∈ c.files) :
    f.renumber σ ∈ d.files :=
  h.files.symm.subset (List.mem_map_of_mem hf)

theorem exists_of_mem (h : Matches σ c d) {g : FileRecord} (hg : g ∈ d.files) :
    ∃ f ∈ c.files, f.renumber σ = g :=
  List.mem_map.1 (h.files.subset hg)

/-- A path is recorded in both or in none, and for the same file. -/
theorem find?_eq (h : Matches σ c d) (hd : d.Consistent) (path : String) :
    d.find? path = (c.find? path).map (·.renumber σ) := by
  cases found : c.find? path with
  | none =>
    rw [Option.map_none, find?_eq_none_iff]
    intro g hg
    obtain ⟨f, hf, rfl⟩ := h.exists_of_mem hg
    exact find?_eq_none_iff.1 found f hf
  | some f =>
    obtain ⟨hf, rfl⟩ := mem_of_find? found
    have there := h.renumber_mem hf
    cases found' : d.find? f.path with
    | none => exact (find?_eq_none_iff.1 found' _ there rfl).elim
    | some g =>
      obtain ⟨hg, same⟩ := mem_of_find? found'
      rw [Option.map_some, hd.eq_of_path hg there same]

theorem records_eq (h : Matches σ c d) (hd : d.Consistent) (path : String) :
    d.records path = c.records path := by
  rw [records, records, h.find?_eq hd, Option.isSome_map]

/-- A number of `c` stands for a file of `c` as its counterpart does in `d`. -/
theorem id_eq_iff (h : Matches σ c d) (hc : c.Consistent) {f : FileRecord} (hf : f ∈ c.files)
    {t : Int × String} (ht : t ∈ c.tags) : σ f.id = σ t.1 ↔ f.id = t.1 := by
  obtain ⟨g, hg, owner⟩ := hc.tags_recorded t ht
  rw [← owner]
  exact ⟨h.injective f hf g hg, congrArg σ⟩

/-! ## The same fate -/

theorem meet_renumber (σ : Int → Int) (fate : Fate) (f : FileRecord) :
    (f.renumber σ).meet fate = (f.meet fate).map (·.renumber σ) := by
  rw [FileRecord.meet, FileRecord.meet, Option.map_map]
  rfl

theorem keeps_renumberTag (h : Matches σ c d) (hc : c.Consistent) (fate : Fate)
    {t : Int × String} (ht : t ∈ c.tags) : d.keeps fate (renumberTag σ t) = c.keeps fate t := by
  rw [keeps, keeps, h.files.any_eq, List.any_map, Bool.eq_iff_iff, List.any_eq_true,
    List.any_eq_true]
  refine exists_congr fun f => and_congr_right fun hf => ?_
  show (σ f.id == σ t.1 && _) = true ↔ _
  rw [Bool.and_eq_true, Bool.and_eq_true, beq_iff_eq, beq_iff_eq, h.id_eq_iff hc hf ht]
  exact Iff.rfl

/-- The numbers of one catalog as those of another one, when new paths get the next numbers. -/
def extended (σ : Int → Int) (c d : Catalog) (i : Int) : Int :=
  if i < c.nextId then σ i else i - c.nextId + d.nextId

theorem extended_of_mem {f : FileRecord} (hf : f ∈ c.files) : extended σ c d f.id = σ f.id :=
  if_pos (id_lt_nextId hf)

theorem map_renumber_numbered (new : List String) :
    (numbered c.nextId new).map (·.renumber (extended σ c d)) = numbered d.nextId new := by
  have shifted : ∀ k : Int, 0 ≤ k → (numbered (c.nextId + k) new).map
      (·.renumber (extended σ c d)) = numbered (d.nextId + k) new := by
    induction new with
    | nil => intro k _; rfl
    | cons path new ih =>
      intro k hk
      rw [numbered, List.map_cons, Int.add_assoc, ih (k + 1) (by omega), numbered, Int.add_assoc,
        FileRecord.renumber, extended, if_neg (by dsimp only; omega)]
      congr 2
      dsimp only
      omega
  simpa using shifted 0 (Int.le_refl 0)

/-- **Catalogs that match and meet the same fate match again**: what stays keeps its counterpart,
and new paths get the next numbers here and there. -/
theorem turn (h : Matches σ c d) (hc : c.Consistent) {new : List String}
    (left : c.Turns c' fate new) (right : d.Turns d' fate new) :
    Matches (extended σ c d) c' d' where
  injective f hf g hg e := by
    have number : ∀ f ∈ c'.files, (∃ r ∈ c.files, r.id = f.id) ∨ c.nextId ≤ f.id := by
      intro f hf
      rcases left.mem_files.1 hf with ⟨r, hr, meets⟩ | new
      · exact Or.inl ⟨r, hr, (FileRecord.meet_eq_some_iff.1 meets).2.symm⟩
      · exact Or.inr (mem_numbered new).2.2
    have low : ∀ r ∈ c.files, σ r.id < d.nextId := fun r hr => id_lt_nextId (h.renumber_mem hr)
    -- An old number has an old counterpart and a new one a new counterpart.
    rcases number f hf with ⟨r, hr, er⟩ | highf <;> rcases number g hg with ⟨s, hs, es⟩ | highg
    · rw [← er, ← es, extended_of_mem hr, extended_of_mem hs] at e
      rw [← er, ← es]
      exact h.injective r hr s hs e
    · rw [← er, extended_of_mem hr, extended, if_neg (by omega)] at e
      have := low r hr
      omega
    · rw [← es, extended_of_mem hs, extended, if_neg (by omega)] at e
      have := low s hs
      omega
    · rw [extended, extended, if_neg (by omega), if_neg (by omega)] at e
      omega
  files := by
    rw [left.files, right.files, List.map_append, map_renumber_numbered]
    refine List.Perm.append_right _ ((h.files.filterMap _).trans (.of_eq ?_))
    rw [List.filterMap_map, List.map_filterMap]
    refine List.filterMap_congr fun f hf => ?_
    show (f.renumber σ).meet fate = _
    rw [meet_renumber]
    cases met : f.meet fate with
    | none => rfl
    | some g =>
      have id := (FileRecord.meet_eq_some_iff.1 met).2
      rw [Option.map_some, Option.map_some, FileRecord.renumber, FileRecord.renumber, id,
        extended_of_mem hf]
  tags := by
    rw [left.tags, right.tags]
    refine (h.tags.filter _).trans (.of_eq ?_)
    rw [List.filter_map]
    have same : c.tags.filter (d.keeps fate ∘ renumberTag σ) = c.tags.filter (c.keeps fate) :=
      List.filter_congr fun t ht => h.keeps_renumberTag hc fate ht
    rw [same]
    refine List.map_congr_left fun t ht => ?_
    obtain ⟨f, hf, owner⟩ := hc.tags_recorded t (List.mem_of_mem_filter ht)
    rw [renumberTag, renumberTag, ← owner, extended_of_mem hf]

/-! ## Changes -/

theorem presentBelow (h : Matches σ c d) (dir : String) :
    (d.presentBelow dir).Perm ((c.presentBelow dir).map (·.renumber σ)) :=
  (h.files.filter _).trans (.of_eq List.filter_map)

theorem dirMoves (h : Matches σ c d) (old new : String) :
    (d.dirMoves old new).Perm (c.dirMoves old new) := by
  have moves := (h.presentBelow old).map fun f => (f.path, rebase old new f.path)
  rwa [List.map_map] at moves

theorem fate_eq (h : Matches σ c d) (hd : d.Consistent) (e : Change) : e.fate d = e.fate c := by
  obtain ⟨kind, path, dest?⟩ := e
  cases kind with
  | created | deleted | dirDeleted => rfl
  | moved =>
    cases dest? with
    | none => rfl
    | some dest =>
      show (if d.records path then _ else _) = if c.records path then _ else _
      rw [h.records_eq hd]
  | dirMoved =>
    cases dest? with
    | none => rfl
    | some dest =>
      funext s
      show dirMoveFate _ path dest s = dirMoveFate _ path dest s
      rw [dirMoveFate, dirMoveFate]
      simp only [((h.dirMoves path dest).map (·.2)).mem_iff]

theorem arrivals_eq (h : Matches σ c d) (hd : d.Consistent) (e : Change) :
    e.arrivals d = e.arrivals c := by
  rw [Change.arrivals, Change.arrivals]
  simp only [h.records_eq hd]

theorem counts_eq (h : Matches σ c d) (hd : d.Consistent) (e : Change) :
    (d.step e).2 = (c.step e).2 := by
  obtain ⟨kind, path, dest?⟩ := e
  cases kind with
  | created => rfl
  | deleted => exact h.records_eq hd path
  | dirDeleted =>
    show (!(d.presentBelow path).isEmpty) = !(c.presentBelow path).isEmpty
    rw [(h.presentBelow path).isEmpty_eq, List.isEmpty_map]
  | moved => cases dest? <;> rfl
  | dirMoved =>
    cases dest? with
    | none => rfl
    | some dest =>
      show (!(d.presentBelow path).isEmpty) = !(c.presentBelow path).isEmpty
      rw [(h.presentBelow path).isEmpty_eq, List.isEmpty_map]

/-- **A change keeps catalogs matching**, and counts in both or in none. -/
theorem step (h : Matches σ c d) (hc : c.Consistent) (hd : d.Consistent) {e : Change}
    (apart : e.IsApart) : Matches (extended σ c d) (c.step e).1 (d.step e).1 := by
  have there := turns_step hd apart
  rw [h.fate_eq hd, h.arrivals_eq hd] at there
  exact h.turn hc (turns_step hc apart) there

theorem steps (h : Matches σ c d) (hc : c.Consistent) (hd : d.Consistent) {events : List Change}
    (apart : ∀ e ∈ events, e.IsApart) :
    ∃ τ, Matches τ (c.steps events).1 (d.steps events).1 ∧
      (d.steps events).2 = (c.steps events).2 := by
  induction events generalizing c d σ with
  | nil => exact ⟨σ, h, rfl⟩
  | cons e events ih =>
    have first := apart e List.mem_cons_self
    obtain ⟨τ, rest, counts⟩ := ih (h.step hc hd first) (hc.step e) (hd.step e)
      fun e' he' => apart e' (List.mem_cons_of_mem _ he')
    refine ⟨τ, ?_, ?_⟩
    · rw [steps_cons, steps_cons]
      exact rest
    · rw [steps_cons, steps_cons]
      dsimp only
      rw [counts, h.counts_eq hd]

/-- Only files and tags matter. -/
theorem of_eq (h : Matches σ c d) (files : c'.files = c.files) (tags : c'.tags = c.tags)
    (files' : d'.files = d.files) (tags' : d'.tags = d.tags) : Matches σ c' d' where
  injective := by
    rw [files]
    exact h.injective
  files := by
    rw [files, files']
    exact h.files
  tags := by
    rw [tags, tags']
    exact h.tags

theorem applyChanges (h : Matches σ c d) (hc : c.Consistent) (hd : d.Consistent)
    {events : List Change} (apart : ∀ e ∈ events, e.IsApart) :
    ∃ τ, Matches τ (c.applyChanges events).1 (d.applyChanges events).1 ∧
      (d.applyChanges events).2 = (c.applyChanges events).2 := by
  obtain ⟨τ, rest, counts⟩ := h.steps hc hd apart
  refine ⟨τ, ?_, counts⟩
  rw [Catalog.applyChanges, Catalog.applyChanges]
  dsimp only
  rw [counts]
  split
  · exact rest
  · exact rest.of_eq rfl rfl rfl rfl

/-! ## Scans -/

theorem newPaths_eq (h : Matches σ c d) (hd : d.Consistent) (found : List String) :
    d.newPaths found = c.newPaths found := by
  rw [newPaths, newPaths]
  simp only [h.find?_eq hd, Option.isNone_map]

theorem sync (h : Matches σ c d) (hc : c.Consistent) (hd : d.Consistent) (found : List String)
    (prune : Bool) : Matches (extended σ c d) (c.sync found prune) (d.sync found prune) := by
  have there := turns_sync hd found prune
  rw [h.newPaths_eq hd] at there
  exact h.turn hc (turns_sync hc found prune) there

theorem presentCount_eq (h : Matches σ c d) : d.presentCount = c.presentCount := by
  rw [presentCount, presentCount, h.files.countP_eq, List.countP_map]
  rfl

theorem scanned (h : Matches σ c d) (hc : c.Consistent) (hd : d.Consistent) (root : String)
    (found : List String) (prune : Bool) :
    Matches (extended σ c d) (Session.scanned c root found prune)
      (Session.scanned d root found prune) :=
  (h.sync hc hd found prune).of_eq rfl rfl rfl rfl

/-! ## Tags -/

theorem fileIds_eq (h : Matches σ c d) (hd : d.Consistent) (paths : List String) :
    d.fileIds paths = (c.fileIds paths).map (·.map σ) := by
  rw [fileIds, fileIds]
  induction paths with
  | nil => rfl
  | cons path paths ih =>
    rw [List.mapM_cons, List.mapM_cons, ih, h.find?_eq hd]
    cases c.find? path with
    | none => rfl
    | some f =>
      cases List.mapM (m := Except TaggingError) _ paths <;> rfl

theorem withTags (h : Matches σ c d) {rows rows' : List (Int × String)}
    (perm : rows'.Perm (rows.map (renumberTag σ))) :
    Matches σ (c.withTags rows) (d.withTags rows') := by
  have length : rows'.length = rows.length := by rw [perm.length_eq, List.length_map]
  have before : d.tags.length = c.tags.length := by rw [h.tags.length_eq, List.length_map]
  rw [Catalog.withTags, Catalog.withTags, length, before]
  split
  · exact h
  · exact ⟨h.injective, h.files, perm⟩

/-- Tags of recorded files, renumbered, are told apart as before. -/
theorem nodup_map_renumberTag (h : Matches σ c d) {rows : List (Int × String)}
    (distinct : rows.Nodup) (recorded : ∀ t ∈ rows, ∃ f ∈ c.files, f.id = t.1) :
    (rows.map (renumberTag σ)).Nodup := by
  refine distinct.map_on fun t ht u hu e => ?_
  obtain ⟨f, hf, ownerf⟩ := recorded t ht
  obtain ⟨g, hg, ownerg⟩ := recorded u hu
  obtain ⟨number, name⟩ := Prod.mk.inj e
  rw [← ownerf, ← ownerg] at number
  exact Prod.ext (by rw [← ownerf, ← ownerg, h.injective f hf g hg number]) name

end Matches

/-- The outcomes of the same tagging of two catalogs: the same error, or catalogs that match with
the same count. -/
inductive SameOutcome :
    Except TaggingError (Catalog × Nat) → Except TaggingError (Catalog × Nat) → Prop
  | ok {r r' : Catalog × Nat} (σ : Int → Int) (tables : Matches σ r.1 r'.1) (count : r'.2 = r.2) :
    SameOutcome (.ok r) (.ok r')
  | error (e : TaggingError) : SameOutcome (.error e) (.error e)

namespace Matches

/-- A tagging of matching catalogs has the same outcome if it makes the same of the rows. -/
theorem outcome (h : Matches σ c d) (hd : d.Consistent) (paths tags : List String)
    (rows : Catalog → List String → List Int → List (Int × String)) (count : Nat → Nat → Nat)
    (perm : ∀ names ids, c.fileIds paths = .ok ids →
      (rows d names (ids.map σ)).Perm ((rows c names ids).map (renumberTag σ))) :
    SameOutcome
      (do
        let names ← normalizeTags tags
        let ids ← c.fileIds paths
        return (c.withTags (rows c names ids), count (rows c names ids).length c.tags.length))
      (do
        let names ← normalizeTags tags
        let ids ← d.fileIds paths
        return (d.withTags (rows d names ids), count (rows d names ids).length d.tags.length)) := by
  rw [h.fileIds_eq hd]
  cases normalizeTags tags with
  | error e => exact .error e
  | ok names =>
    cases found : c.fileIds paths with
    | error e => exact .error e
    | ok ids =>
      have same := perm names ids found
      refine .ok σ (h.withTags same) ?_
      show count _ _ = count _ _
      rw [same.length_eq, List.length_map, h.tags.length_eq, List.length_map]

/-- **Adding tags** to matching catalogs has the same outcome. -/
theorem addTags (h : Matches σ c d) (hc : c.Consistent) (hd : d.Consistent)
    (paths tags : List String) :
    SameOutcome (c.addTags paths tags) (d.addTags paths tags) := by
  refine h.outcome hd paths tags
    (fun c names ids => insertTags c.tags (ids.flatMap fun id => names.map fun name => (id, name)))
    (fun after before => after - before) fun names ids found => ?_
  have recorded : ∀ t ∈ insertTags c.tags (ids.flatMap fun id => names.map fun name => (id, name)),
      ∃ f ∈ c.files, f.id = t.1 := by
    intro t ht
    rcases mem_insertTags.1 ht with ht | ht
    · exact hc.tags_recorded t ht
    · obtain ⟨id, hid, ht⟩ := List.mem_flatMap.1 ht
      obtain ⟨name, _, rfl⟩ := List.mem_map.1 ht
      exact recorded_of_fileIds found id hid
  refine (List.perm_ext_iff_of_nodup (nodup_insertTags hd.tags_distinct)
    (h.nodup_map_renumberTag (nodup_insertTags hc.tags_distinct) recorded)).2 fun t => ?_
  rw [mem_insertTags, h.tags.mem_iff]
  simp only [List.mem_map, mem_insertTags, List.mem_flatMap, renumberTag]
  grind

/-- **Removing tags** from matching catalogs has the same outcome. -/
theorem removeTags (h : Matches σ c d) (hc : c.Consistent) (hd : d.Consistent)
    (paths tags : List String) :
    SameOutcome (c.removeTags paths tags) (d.removeTags paths tags) := by
  refine h.outcome hd paths tags
    (fun c names ids => c.tags.filter fun t => !(ids.contains t.1 && names.contains t.2))
    (fun after before => before - after) fun names ids found => ?_
  refine (h.tags.filter _).trans (.of_eq ?_)
  rw [List.filter_map]
  refine congrArg _ (List.filter_congr fun t ht => ?_)
  have number : (ids.map σ).contains (σ t.1) = ids.contains t.1 := by
    rw [Bool.eq_iff_iff, List.contains_iff_mem, List.contains_iff_mem, List.mem_map]
    constructor
    · rintro ⟨id, hid, e⟩
      obtain ⟨f, hf, rfl⟩ := recorded_of_fileIds found id hid
      rwa [← (h.id_eq_iff hc hf ht).1 e]
    · exact fun mem => ⟨t.1, mem, rfl⟩
  show (!((ids.map σ).contains (σ t.1) && names.contains t.2)) = _
  rw [number]

end Matches

end Catalog

end TagSearch
