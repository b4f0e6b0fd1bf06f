import TagSearch.Catalog.Tagging
import TagSearch.Proofs.Catalog.Basic
import TagSearch.Proofs.Lists
import TagSearch.Proofs.Text.Trim

/-!
# What a tagging does

* `addTags_eq_ok_iff` and `removeTags_eq_ok_iff`: the tags are names, the paths are recorded, and
  the rows are those of the names and files.
* `mem_insertTags` and `nodup_insertTags`: rows are joined like sets.
* `mem_tags_addTags` and `mem_tags_removeTags`: a file has the tags that it had, and those added to
  it by its path, but not those removed.
-/

namespace TagSearch.Catalog

variable {c : Catalog}

/-! ## Names and numbers -/

theorem trimmed_of_normalizeTags {tags names : List String} (h : normalizeTags tags = .ok names) :
    ∀ name ∈ names, name ≠ "" ∧ Text.trim name = name := by
  intro name hname
  rw [normalizeTags] at h
  cases blank : tags.find? Text.isBlankText with
  | some text =>
    rw [blank] at h
    cases h
  | none =>
    rw [blank] at h
    obtain rfl := Except.ok.inj h
    rw [List.mem_eraseDups, List.mem_map] at hname
    obtain ⟨text, htext, rfl⟩ := hname
    refine ⟨Text.trim_ne_empty ?_, Text.trim_trim text⟩
    simpa using List.find?_eq_none.1 blank text htext

theorem recorded_of_fileIds {paths : List String} {ids : List Int} (h : c.fileIds paths = .ok ids) :
    ∀ id ∈ ids, ∃ f ∈ c.files, f.id = id := by
  intro id hid
  obtain ⟨path, _, hpath⟩ := exists_of_mem_of_mapM h hid
  cases found : c.find? path with
  | none =>
    rw [found] at hpath
    cases hpath
  | some f =>
    rw [found] at hpath
    exact ⟨f, (mem_of_find? found).1, Except.ok.inj hpath⟩

/-! ## Rows -/

theorem mem_insertTags {rows new : List (Int × String)} {t : Int × String} :
    t ∈ insertTags rows new ↔ t ∈ rows ∨ t ∈ new := by
  induction new generalizing rows with
  | nil => simp [insertTags]
  | cons row new ih =>
    rw [insertTags, List.foldl_cons, ← insertTags, ih]
    by_cases known : rows.contains row = true
    · rw [if_pos known, List.mem_cons]
      rw [List.contains_iff_mem] at known
      grind
    · rw [if_neg known]
      simp [or_assoc]

theorem nodup_insertTags {rows new : List (Int × String)} (h : rows.Nodup) :
    (insertTags rows new).Nodup := by
  induction new generalizing rows with
  | nil => exact h
  | cons row new ih =>
    rw [insertTags, List.foldl_cons, ← insertTags]
    refine ih ?_
    by_cases known : rows.contains row = true
    · rwa [if_pos known]
    · rw [if_neg known]
      refine h.append (by simp) fun t ht ht' => known ?_
      rw [List.mem_singleton.1 ht'] at ht
      exact List.contains_iff_mem.2 ht

/-! ## Taggings that are not refused -/

theorem addTags_eq_ok_iff {paths tags : List String} {r : Catalog × Nat} :
    c.addTags paths tags = .ok r ↔
      ∃ names ids, normalizeTags tags = .ok names ∧ c.fileIds paths = .ok ids ∧
        r =
          let rows := insertTags c.tags (ids.flatMap fun id => names.map fun name => (id, name))
          (c.withTags rows, rows.length - c.tags.length) := by
  rw [addTags, bind_eq_ok_iff]
  simp only [bind_eq_ok_iff]
  constructor
  · rintro ⟨names, hnames, ids, hids, h⟩
    exact ⟨names, ids, hnames, hids, (Except.ok.inj h).symm⟩
  · rintro ⟨names, ids, hnames, hids, rfl⟩
    exact ⟨names, hnames, ids, hids, rfl⟩

theorem removeTags_eq_ok_iff {paths tags : List String} {r : Catalog × Nat} :
    c.removeTags paths tags = .ok r ↔
      ∃ names ids, normalizeTags tags = .ok names ∧ c.fileIds paths = .ok ids ∧
        r =
          let rows := c.tags.filter fun (id, name) => !(ids.contains id && names.contains name)
          (c.withTags rows, c.tags.length - rows.length) := by
  rw [removeTags, bind_eq_ok_iff]
  simp only [bind_eq_ok_iff]
  constructor
  · rintro ⟨names, hnames, ids, hids, h⟩
    exact ⟨names, ids, hnames, hids, (Except.ok.inj h).symm⟩
  · rintro ⟨names, ids, hnames, hids, rfl⟩
    exact ⟨names, hnames, ids, hids, rfl⟩

/-- The tables after a tagging, and whether the number of tags changed. -/
theorem addTags_withTags {paths tags : List String} {r : Catalog × Nat}
    (added : c.addTags paths tags = .ok r) :
    ∃ rows, r.1 = c.withTags rows ∧ (r.2 ≠ 0 → rows.length ≠ c.tags.length) := by
  obtain ⟨names, ids, _, _, rfl⟩ := addTags_eq_ok_iff.1 added
  exact ⟨_, rfl, fun h same => h (Nat.sub_eq_zero_of_le (Nat.le_of_eq same))⟩

theorem removeTags_withTags {paths tags : List String} {r : Catalog × Nat}
    (removed : c.removeTags paths tags = .ok r) :
    ∃ rows, r.1 = c.withTags rows ∧ (r.2 ≠ 0 → rows.length ≠ c.tags.length) := by
  obtain ⟨names, ids, _, _, rfl⟩ := removeTags_eq_ok_iff.1 removed
  exact ⟨_, rfl, fun h same => h (Nat.sub_eq_zero_of_le (Nat.le_of_eq same.symm))⟩

/-! ## The tags after a tagging -/

/-- A file is at one of some paths. -/
def IsAt (c : Catalog) (id : Int) (paths : List String) : Prop :=
  ∃ path ∈ paths, ∃ f, c.find? path = some f ∧ f.id = id

theorem mem_fileIds_iff {paths : List String} {ids : List Int} (h : c.fileIds paths = .ok ids)
    {id : Int} : id ∈ ids ↔ c.IsAt id paths := by
  constructor
  · intro hid
    obtain ⟨path, hpath, found⟩ := exists_of_mem_of_mapM h hid
    cases there : c.find? path with
    | none =>
      rw [there] at found
      cases found
    | some f =>
      rw [there] at found
      exact ⟨path, hpath, f, there, Except.ok.inj found⟩
  · rintro ⟨path, hpath, f, there, rfl⟩
    obtain ⟨id, hid, found⟩ := exists_result_of_mapM h hpath
    rw [there] at found
    rwa [Except.ok.inj found]

theorem mem_of_normalizeTags {tags names : List String} (h : normalizeTags tags = .ok names)
    {name : String} : name ∈ names ↔ name ∈ tags.map Text.trim := by
  rw [normalizeTags] at h
  cases blank : tags.find? Text.isBlankText with
  | some text =>
    rw [blank] at h
    cases h
  | none =>
    rw [blank] at h
    rw [← Except.ok.inj h, List.mem_eraseDups]

theorem prefix_insertTags (rows new : List (Int × String)) : rows <+: insertTags rows new := by
  induction new generalizing rows with
  | nil => exact List.prefix_rfl
  | cons row new ih =>
    rw [insertTags, List.foldl_cons, ← insertTags]
    split
    · exact ih rows
    · exact (List.prefix_append rows [row]).trans (ih _)

/-- Rows that replace the tags, if rows of the same number are the same rows. -/
theorem tags_withTags {rows : List (Int × String)}
    (h : rows.length = c.tags.length → rows = c.tags) : (c.withTags rows).tags = rows := by
  rw [withTags]
  split
  · rename_i same
    exact (h same).symm
  · rfl

theorem files_withTags (rows : List (Int × String)) : (c.withTags rows).files = c.files := by
  rw [withTags]
  split <;> rfl

/-- **The tags after tags were added**: those that were there, and those named for the paths. -/
theorem mem_tags_addTags {paths tags : List String} {r : Catalog × Nat}
    (added : c.addTags paths tags = .ok r) {id : Int} {name : String} :
    (id, name) ∈ r.1.tags ↔
      (id, name) ∈ c.tags ∨ (name ∈ tags.map Text.trim ∧ c.IsAt id paths) := by
  obtain ⟨names, ids, hnames, hids, rfl⟩ := addTags_eq_ok_iff.1 added
  dsimp only
  rw [tags_withTags fun same => ((prefix_insertTags _ _).eq_of_length same.symm).symm,
    mem_insertTags, ← mem_of_normalizeTags hnames, ← mem_fileIds_iff hids]
  refine or_congr_right ?_
  simp only [List.mem_flatMap, List.mem_map, Prod.mk.injEq]
  constructor
  · rintro ⟨i, hi, n, hn, rfl, rfl⟩
    exact ⟨hn, hi⟩
  · rintro ⟨hn, hi⟩
    exact ⟨id, hi, name, hn, rfl, rfl⟩

/-- **The tags after tags were removed**: those that were there and are not named for the paths. -/
theorem mem_tags_removeTags {paths tags : List String} {r : Catalog × Nat}
    (removed : c.removeTags paths tags = .ok r) {id : Int} {name : String} :
    (id, name) ∈ r.1.tags ↔
      (id, name) ∈ c.tags ∧ ¬ (name ∈ tags.map Text.trim ∧ c.IsAt id paths) := by
  obtain ⟨names, ids, hnames, hids, rfl⟩ := removeTags_eq_ok_iff.1 removed
  dsimp only
  rw [tags_withTags fun same => List.filter_eq_self.2 (List.length_filter_eq_length_iff.1 same),
    List.mem_filter, ← mem_of_normalizeTags hnames, ← mem_fileIds_iff hids]
  simp only [Bool.not_eq_true', Bool.and_eq_false_iff, List.contains_eq_mem,
    decide_eq_false_iff_not]
  tauto

end TagSearch.Catalog
