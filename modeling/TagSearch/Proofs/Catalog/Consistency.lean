import TagSearch.Catalog.Session
import TagSearch.Proofs.Catalog.Changes
import TagSearch.Proofs.Catalog.Tagging

/-!
# Consistent tables

Every operation on a catalog keeps its tables consistent. Most operations are made of four changes:
rows that keep their numbers and paths, a selection of the rows, a new file, and a new path for a
file. Each of them is treated once.

* `Consistent.of_perm`: consistency depends on numbers, paths and tags only, in any order.
* `Consistent.filter`: tables stay consistent if the tags of every file that goes also go.
* `Consistent.insert` and `Consistent.setPath`: a path that is not in use may be given to a file.
* `Consistent.sync`, `Consistent.steps`, `Consistent.addTags`, …: the operations.
-/

namespace TagSearch.Catalog

variable {c c' : Catalog}

namespace Consistent

theorem eq_of_id (h : c.Consistent) {f g : FileRecord} (hf : f ∈ c.files) (hg : g ∈ c.files)
    (e : f.id = g.id) : f = g :=
  List.inj_on_of_nodup_map h.ids_distinct hf hg e

theorem eq_of_path (h : c.Consistent) {f g : FileRecord} (hf : f ∈ c.files) (hg : g ∈ c.files)
    (e : f.path = g.path) : f = g :=
  List.inj_on_of_nodup_map h.paths_distinct hf hg e

theorem files_nodup (h : c.Consistent) : c.files.Nodup := h.ids_distinct.of_map _

/-! ## The four changes -/

/-- Rows may be changed in all but their numbers, if their paths stay distinct. -/
theorem of_ids (h : c.Consistent) (ids : (c'.files.map (·.id)).Perm (c.files.map (·.id)))
    (paths : (c'.files.map (·.path)).Nodup) (tags : c'.tags.Perm c.tags) : c'.Consistent where
  ids_distinct := ids.nodup_iff.2 h.ids_distinct
  ids_positive f hf := by
    obtain ⟨g, hg, e⟩ := List.mem_map.1 (ids.subset (List.mem_map_of_mem hf))
    exact e ▸ h.ids_positive g hg
  paths_distinct := paths
  tags_distinct := tags.nodup_iff.2 h.tags_distinct
  tags_recorded t ht := by
    obtain ⟨g, hg, e⟩ := h.tags_recorded t (tags.subset ht)
    obtain ⟨f, hf, e'⟩ := List.mem_map.1 (ids.symm.subset (List.mem_map_of_mem hg))
    exact ⟨f, hf, e'.trans e⟩
  tags_trimmed t ht := h.tags_trimmed t (tags.subset ht)

/-- **Consistency depends on numbers, paths and tags only**, in any order. -/
theorem of_perm (h : c.Consistent) (ids : (c'.files.map (·.id)).Perm (c.files.map (·.id)))
    (paths : (c'.files.map (·.path)).Perm (c.files.map (·.path))) (tags : c'.tags.Perm c.tags) :
    c'.Consistent :=
  h.of_ids ids (paths.nodup_iff.2 h.paths_distinct) tags

/-- Rows may be changed in what is neither number nor path. -/
theorem mapFiles (h : c.Consistent) {g : FileRecord → FileRecord}
    (keeps : ∀ r, (g r).id = r.id ∧ (g r).path = r.path) :
    { c with files := c.files.map g }.Consistent := by
  refine h.of_perm (.of_eq ?_) (.of_eq ?_) (.refl _)
  · rw [List.map_map]
    exact List.map_congr_left fun r _ => (keeps r).1
  · rw [List.map_map]
    exact List.map_congr_left fun r _ => (keeps r).2

/-- **Rows may be taken away**, if no tag stays whose file goes. -/
theorem filter (h : c.Consistent) {keep : FileRecord → Bool} {keepTag : Int × String → Bool}
    (follow : ∀ f ∈ c.files, ∀ t ∈ c.tags, f.id = t.1 → keepTag t = true → keep f = true) :
    { c with files := c.files.filter keep, tags := c.tags.filter keepTag }.Consistent where
  ids_distinct := h.ids_distinct.sublist (List.filter_sublist.map _)
  ids_positive f hf := h.ids_positive f (List.mem_of_mem_filter hf)
  paths_distinct := h.paths_distinct.sublist (List.filter_sublist.map _)
  tags_distinct := h.tags_distinct.filter _
  tags_recorded t ht := by
    obtain ⟨mem, kept⟩ := List.mem_filter.1 ht
    obtain ⟨f, hf, e⟩ := h.tags_recorded t mem
    exact ⟨f, List.mem_filter.2 ⟨hf, follow f hf t mem e kept⟩, e⟩
  tags_trimmed t ht := h.tags_trimmed t (List.mem_of_mem_filter ht)

/-- **A path that is not recorded may be recorded**, under the next number. -/
theorem insert (h : c.Consistent) {path : String} (new : c.find? path = none) :
    (c.insert path).Consistent where
  ids_distinct := by
    rw [Catalog.insert, List.map_append]
    refine h.ids_distinct.append (by simp) fun i hi hi' => ?_
    obtain ⟨f, hf, rfl⟩ := List.mem_map.1 hi
    exact Int.ne_of_lt (id_lt_nextId hf) (by simpa using hi')
  ids_positive f hf := by
    rcases List.mem_append.1 hf with hf | hf
    · exact h.ids_positive f hf
    · rw [List.mem_singleton.1 hf]
      exact nextId_pos h.ids_positive
  paths_distinct := by
    rw [Catalog.insert, List.map_append]
    refine h.paths_distinct.append (by simp) fun p hp hp' => ?_
    obtain ⟨f, hf, rfl⟩ := List.mem_map.1 hp
    exact find?_eq_none_iff.1 new f hf (by simpa using hp')
  tags_distinct := h.tags_distinct
  tags_recorded t ht := by
    obtain ⟨f, hf, e⟩ := h.tags_recorded t ht
    exact ⟨f, List.mem_append_left _ hf, e⟩
  tags_trimmed := h.tags_trimmed

/-- **A file may be given a path** that no other file has. -/
theorem setPath (h : c.Consistent) {id : Int} {path : String} {g : FileRecord → FileRecord}
    (free : ∀ f ∈ c.files, f.path = path → f.id = id)
    (sets : ∀ r, (g r).id = r.id ∧ (g r).path = path) : (c.update id g).Consistent := by
  have ids : (c.update id g).files.map (·.id) = c.files.map (·.id) := by
    rw [update, List.map_map]
    refine List.map_congr_left fun r _ => ?_
    by_cases e : r.id = id <;> simp [e, sets]
  have samePath : ∀ r, (if r.id = id then g r else r).path =
      if r.id = id then path else r.path := by
    intro r
    by_cases e : r.id = id <;> simp [e, sets]
  refine h.of_ids (.of_eq ids) ?_ (.refl _)
  rw [update, List.map_map]
  refine (List.nodup_map_iff_inj_on h.files_nodup).2 fun x hx y hy e => ?_
  simp only [Function.comp_apply, samePath] at e
  by_cases hxi : x.id = id <;> by_cases hyi : y.id = id
  · exact h.eq_of_id hx hy (hxi.trans hyi.symm)
  · rw [if_pos hxi, if_neg hyi] at e
    exact absurd (free y hy e.symm) hyi
  · rw [if_neg hxi, if_pos hyi] at e
    exact absurd (free x hx e) hxi
  · rw [if_neg hxi, if_neg hyi] at e
    exact h.eq_of_path hx hy e

/-! ## Files that come, go and move -/

theorem update (h : c.Consistent) {id : Int} {g : FileRecord → FileRecord}
    (keeps : ∀ r, (g r).id = r.id ∧ (g r).path = r.path) : (c.update id g).Consistent := by
  refine h.mapFiles fun r => ?_
  split
  · exact keeps r
  · exact ⟨rfl, rfl⟩

theorem place (h : c.Consistent) (path : String) : (c.place path).Consistent := by
  rw [Catalog.place]
  cases found : c.find? path with
  | none => exact h.insert found
  | some f => exact h.update fun r => ⟨rfl, rfl⟩

theorem markMissing (h : c.Consistent) (path : String) : (c.markMissing path).Consistent := by
  rw [Catalog.markMissing]
  cases c.find? path with
  | none => exact h
  | some f => exact h.update fun r => ⟨rfl, rfl⟩

theorem remove (h : c.Consistent) (id : Int) : (c.remove id).Consistent :=
  h.filter fun f _ t _ e kept => by simpa [e] using kept

/-- **A move keeps the tables consistent**: the file that was at the new path is removed before
another one gets this path. -/
theorem rename (h : c.Consistent) (old new : String) : (c.rename old new).Consistent := by
  rw [Catalog.rename]
  cases c.find? old with
  | none => exact h.place new
  | some f =>
    cases found : c.find? new with
    | none =>
      refine h.setPath (fun r hr e => ?_) fun r => ⟨rfl, rfl⟩
      exact absurd e (find?_eq_none_iff.1 found r hr)
    | some g =>
      obtain ⟨hg, hnew⟩ := mem_of_find? found
      dsimp only
      by_cases same : g.id = f.id
      · rw [if_pos same]
        refine h.setPath (fun r hr e => ?_) fun r => ⟨rfl, rfl⟩
        rw [h.eq_of_path hr hg (e.trans hnew.symm), same]
      · rw [if_neg same]
        refine (h.remove g.id).setPath (fun r hr e => ?_) fun r => ⟨rfl, rfl⟩
        obtain ⟨mem, kept⟩ := List.mem_filter.1 hr
        rw [h.eq_of_path mem hg (e.trans hnew.symm)] at kept
        simp at kept

theorem markDirMissing (h : c.Consistent) (dir : String) : (c.markDirMissing dir).Consistent := by
  refine h.mapFiles fun r => ?_
  split <;> exact ⟨rfl, rfl⟩

theorem renameAll (h : c.Consistent) (moves : List (String × String)) :
    (moves.foldl (fun c (a, b) => c.rename a b) c).Consistent := by
  induction moves generalizing c with
  | nil => exact h
  | cons move moves ih => exact ih (h.rename move.1 move.2)

theorem renameDir (h : c.Consistent) (old new : String) : (c.renameDir old new).Consistent :=
  h.renameAll _

/-! ## Scans -/

theorem insertAll (h : c.Consistent) {paths : List String} (distinct : paths.Nodup)
    (new : ∀ p ∈ paths, c.find? p = none) : (paths.foldl Catalog.insert c).Consistent := by
  induction paths generalizing c with
  | nil => exact h
  | cons path paths ih =>
    obtain ⟨fresh, distinct⟩ := List.nodup_cons.1 distinct
    refine ih (h.insert (new path List.mem_cons_self)) distinct fun p hp => ?_
    rw [find?_eq_none_iff]
    intro f hf
    rcases List.mem_append.1 hf with hf | hf
    · exact find?_eq_none_iff.1 (new p (List.mem_cons_of_mem _ hp)) f hf
    · rw [List.mem_singleton.1 hf]
      rintro rfl
      exact fresh hp

theorem insertNew (h : c.Consistent) (found : List String) :
    ((c.newPaths found).foldl Catalog.insert c).Consistent := by
  have order := List.mergeSort_perm ((found.filter fun p => (c.find? p).isNone).eraseDups)
    fun a b => decide (a ≤ b)
  refine h.insertAll (order.nodup_iff.2 (nodup_eraseDups _)) fun p hp => ?_
  have mem := order.subset hp
  rw [List.mem_eraseDups, List.mem_filter] at mem
  exact Option.isNone_iff_eq_none.1 mem.2

/-- **A scan keeps the tables consistent**: with a file that is pruned go its tags. -/
theorem sync (h : c.Consistent) (found : List String) (prune : Bool) :
    (c.sync found prune).Consistent := by
  rw [Catalog.sync]
  cases prune with
  | false => exact (h.insertNew found).mapFiles fun r => ⟨rfl, rfl⟩
  | true =>
    refine Consistent.mapFiles (Consistent.filter (h.insertNew found) ?_) fun r => ⟨rfl, rfl⟩
    intro f hf t _ e kept
    -- A file that is not found would have its number among those that are gone.
    by_contra lost
    have gone : t.1 ∈ (((c.newPaths found).foldl Catalog.insert c).files.filter
        fun f => !found.contains f.path).map (·.id) :=
      List.mem_map.2 ⟨f, List.mem_filter.2 ⟨hf, by simpa using lost⟩, e⟩
    rw [Bool.not_eq_true', List.contains_eq_mem, decide_eq_false_iff_not] at kept
    exact kept gone

/-! ## Changes -/

theorem refreshTokens (h : c.Consistent) : c.refreshTokens.Consistent :=
  h.of_perm (.refl _) (.refl _) (.refl _)

theorem step (h : c.Consistent) (e : Change) : (c.step e).1.Consistent := by
  obtain ⟨kind, path, dest?⟩ := e
  cases kind with
  | created => exact h.place path
  | deleted => exact h.markMissing path
  | dirDeleted => exact h.markDirMissing path
  | moved =>
    cases dest? with
    | none => exact h
    | some dest => exact h.rename path dest
  | dirMoved =>
    cases dest? with
    | none => exact h
    | some dest => exact h.renameDir path dest

theorem steps (h : c.Consistent) (events : List Change) : (c.steps events).1.Consistent := by
  induction events generalizing c with
  | nil => exact h
  | cons e events ih =>
    rw [steps_cons]
    exact ih (h.step e)

theorem applyChanges (h : c.Consistent) (events : List Change) :
    (c.applyChanges events).1.Consistent := by
  rw [Catalog.applyChanges]
  dsimp only
  split
  · exact h.steps events
  · exact (h.steps events).refreshTokens

/-! ## Tags -/

theorem withTags (h : c.Consistent) {rows : List (Int × String)} (distinct : rows.Nodup)
    (recorded : ∀ t ∈ rows, ∃ f ∈ c.files, f.id = t.1)
    (trimmed : ∀ t ∈ rows, t.2 ≠ "" ∧ Text.trim t.2 = t.2) : (c.withTags rows).Consistent := by
  rw [Catalog.withTags]
  split
  · exact h
  · exact
      { ids_distinct := h.ids_distinct
        ids_positive := h.ids_positive
        paths_distinct := h.paths_distinct
        tags_distinct := distinct
        tags_recorded := recorded
        tags_trimmed := trimmed }

/-- **Adding tags keeps the tables consistent**: new tags are trimmed, and those files exist. -/
theorem addTags (h : c.Consistent) {paths tags : List String} {r : Catalog × Nat}
    (added : c.addTags paths tags = .ok r) : r.1.Consistent := by
  obtain ⟨names, ids, hnames, hids, rfl⟩ := addTags_eq_ok_iff.1 added
  refine h.withTags (nodup_insertTags h.tags_distinct) (fun t ht => ?_) fun t ht => ?_
  all_goals
    rcases mem_insertTags.1 ht with ht | ht
  · exact h.tags_recorded t ht
  · obtain ⟨id, hid, ht⟩ := List.mem_flatMap.1 ht
    obtain ⟨name, _, rfl⟩ := List.mem_map.1 ht
    exact recorded_of_fileIds hids id hid
  · exact h.tags_trimmed t ht
  · obtain ⟨id, _, ht⟩ := List.mem_flatMap.1 ht
    obtain ⟨name, hname, rfl⟩ := List.mem_map.1 ht
    exact trimmed_of_normalizeTags hnames name hname

theorem removeTags (h : c.Consistent) {paths tags : List String} {r : Catalog × Nat}
    (removed : c.removeTags paths tags = .ok r) : r.1.Consistent := by
  obtain ⟨names, ids, _, _, rfl⟩ := removeTags_eq_ok_iff.1 removed
  refine h.withTags (h.tags_distinct.filter _) (fun t ht => ?_) fun t ht => ?_
  · exact h.tags_recorded t (List.mem_of_mem_filter ht)
  · exact h.tags_trimmed t (List.mem_of_mem_filter ht)

/-! ## Sessions -/

/-- What is stored and opened again has the same rows. -/
theorem reopened (h : c.Consistent) : c.stored.open.Consistent :=
  h.of_perm ((List.mergeSort_perm _ _).map _) ((List.mergeSort_perm _ _).map _) (.refl _)

theorem scanned (h : c.Consistent) (root : String) (found : List String) (prune : Bool) :
    (Session.scanned c root found prune).Consistent :=
  (h.sync found prune).of_perm (.refl _) (.refl _) (.refl _)

end Consistent

end TagSearch.Catalog
