import TagSearch.Proofs.Catalog.Search
import Mathlib.Algebra.BigOperators.Group.List.Lemmas

/-!
# Counts, lists and searches of a tag

A tag is counted in the rows of the tags, listed from the same rows, and searched through the token
table among the recorded files. In tables that are consistent and whose token table mirrors the
tags, as they are after every run of routine actions, all of them speak of the same files.

* `Catalog.mem_search_tag_iff`: what a search for a tag finds.
* `Catalog.countTagged_eq_length`: it finds as many files as are counted.
* `Catalog.mem_listTags_iff`, `Catalog.sum_listTags`: the listed tags are those that are counted,
  and their counts make up all rows.
* `Catalog.mem_tagsByFile_iff`: the tags of given files, `Catalog.tagsByFile?_eq_some_iff`: within
  a capacity.
* `Catalog.TagViews` is all of it, and `Session.tag_views_agree`: so it is after every run.
-/

namespace TagSearch

namespace Catalog

variable {c : Catalog}

/-! ## Searching for a tag -/

/-- The files that a search for a tag finds. -/
def tagged (c : Catalog) (name : String) : List FileRecord :=
  c.pick (c.hasToken (tagToken name) ·.id)

/-- A search for a tag finds the same whatever the match of paths is. -/
theorem search_tag (c : Catalog) (name : String) (m : PathMatch) :
    c.search (.term (.tag name)) m none = .ok (c.tagged name) := by
  have same : (Predicate.ofExpr m (.term (.tag name))).holds c =
      (c.hasToken (tagToken name) ·.id) := by
    funext f
    rw [Bool.eq_iff_iff, Predicate.holds_ofExpr_iff]
    rfl
  rw [search, takeLimit, select, same, tagged]

theorem mem_tagged_iff (consistent : c.Consistent) (mirrored : c.Mirrored) {name : String}
    {f : FileRecord} : f ∈ c.tagged name ↔ f ∈ c.files ∧ (f.id, name) ∈ c.tags := by
  rw [tagged, mem_pick, hasToken_iff consistent mirrored]

/-- Every number that has the tag is that of a file that is found. -/
theorem exists_mem_tagged_iff (consistent : c.Consistent) (mirrored : c.Mirrored) {name : String}
    {id : Int} : (∃ f ∈ c.tagged name, f.id = id) ↔ (id, name) ∈ c.tags := by
  constructor
  · rintro ⟨f, hf, rfl⟩
    exact ((mem_tagged_iff consistent mirrored).1 hf).2
  · intro ht
    obtain ⟨f, hf, e⟩ := consistent.tags_recorded _ ht
    exact ⟨f, (mem_tagged_iff consistent mirrored).2 ⟨hf, e ▸ ht⟩, e⟩

/-- **A search for a tag finds as many files as are counted**: the numbers found are the numbers in
the rows of the tag, and neither has repetitions. -/
theorem countTagged_eq_length (consistent : c.Consistent) (mirrored : c.Mirrored) (name : String) :
    c.countTagged name = (c.tagged name).length := by
  have found : ((c.tagged name).map (·.id)).Nodup :=
    ((List.mergeSort_perm _ _).map _).nodup_iff.2
      (consistent.ids_distinct.sublist (List.filter_sublist.map _))
  have rows : ((c.tags.filter (·.2 == name)).map (·.1)).Nodup := by
    refine (List.nodup_map_iff_inj_on (consistent.tags_distinct.filter _)).2 fun s hs t ht e => ?_
    simp only [List.mem_filter, beq_iff_eq] at hs ht
    exact Prod.ext e (hs.2.trans ht.2.symm)
  have same : ((c.tags.filter (·.2 == name)).map (·.1)).Perm ((c.tagged name).map (·.id)) := by
    refine (List.perm_ext_iff_of_nodup rows found).2 fun id => ?_
    rw [List.mem_map, List.mem_map, exists_mem_tagged_iff consistent mirrored]
    constructor
    · rintro ⟨⟨id, name'⟩, mem, rfl⟩
      obtain ⟨mem, e⟩ := List.mem_filter.1 mem
      rwa [← eq_of_beq e]
    · exact fun mem => ⟨_, List.mem_filter.2 ⟨mem, beq_self_eq_true name⟩, rfl⟩
  have lengths := same.length_eq
  rwa [List.length_map, List.length_map, ← List.countP_eq_length_filter] at lengths

/-! ## The listed tags -/

theorem countTagged_pos_iff {name : String} :
    0 < c.countTagged name ↔ ∃ t ∈ c.tags, t.2 = name := by
  simp [countTagged, List.countP_pos_iff]

/-- **The tags that are listed are those that some file has**, with their counts. -/
theorem mem_listTags_iff {name : String} {n : Nat} :
    (name, n) ∈ c.listTags ↔ n = c.countTagged name ∧ 0 < n := by
  rw [listTags, List.mem_map]
  constructor
  · rintro ⟨name', mem, e⟩
    obtain ⟨rfl, rfl⟩ := Prod.mk.inj e
    refine ⟨rfl, countTagged_pos_iff.2 ?_⟩
    rwa [(List.mergeSort_perm _ _).mem_iff, List.mem_eraseDups, List.mem_map] at mem
  · rintro ⟨rfl, pos⟩
    refine ⟨name, ?_, rfl⟩
    rw [(List.mergeSort_perm _ _).mem_iff, List.mem_eraseDups, List.mem_map]
    exact countTagged_pos_iff.1 pos

theorem pairwise_listTags (c : Catalog) : c.listTags.Pairwise fun s t => s.1 < t.1 :=
  List.pairwise_map.2 (pairwise_sort_of_nodup (nodup_eraseDups _))

/-- **The counts of the listed tags make up all rows.** -/
theorem sum_listTags (c : Catalog) : (c.listTags.map (·.2)).sum = c.tags.length := by
  have names : (((c.tags.map (·.2)).eraseDups).mergeSort fun a b => decide (a ≤ b)).Perm
      (c.tags.map (·.2)).dedup := by
    refine (List.mergeSort_perm _ _).trans
      ((List.perm_ext_iff_of_nodup (nodup_eraseDups _) (List.nodup_dedup _)).2 fun name => ?_)
    rw [List.mem_eraseDups, List.mem_dedup]
  have counts : ∀ name, c.countTagged name = (c.tags.map (·.2)).count name := by
    intro name
    rw [List.count, List.countP_map]
    rfl
  rw [listTags, List.map_map]
  calc (List.map ((·.2) ∘ fun name => (name, c.countTagged name)) _).sum
      = ((c.tags.map (·.2)).dedup.map fun name => (c.tags.map (·.2)).count name).sum :=
        ((names.map _).trans (.of_eq (List.map_congr_left fun name _ => counts name))).sum_eq
    _ = c.tags.length := by rw [List.sum_map_count_dedup_eq_length, List.length_map]

/-! ## The tags of given files -/

theorem mem_tagsOf_iff {id : Int} {name : String} : name ∈ c.tagsOf id ↔ (id, name) ∈ c.tags := by
  rw [tagsOf, (List.mergeSort_perm _ _).mem_iff, List.mem_eraseDups, List.mem_map]
  constructor
  · rintro ⟨⟨id', name'⟩, mem, rfl⟩
    obtain ⟨mem, e⟩ := List.mem_filter.1 mem
    rwa [← eq_of_beq e]
  · exact fun mem => ⟨_, List.mem_filter.2 ⟨mem, beq_self_eq_true id⟩, rfl⟩

theorem pairwise_tagsOf (c : Catalog) (id : Int) : (c.tagsOf id).Pairwise (· < ·) :=
  pairwise_sort_of_nodup (nodup_eraseDups _)

/-- **The files that are listed with tags are those of the given ones that have some.** -/
theorem mem_tagsByFile_iff {ids : List Int} {id : Int} {names : List String} :
    (id, names) ∈ c.tagsByFile ids ↔ id ∈ ids ∧ names = c.tagsOf id ∧ names ≠ [] := by
  rw [tagsByFile, List.mem_filter, List.mem_map]
  constructor
  · rintro ⟨⟨id', mem, e⟩, some⟩
    obtain ⟨rfl, rfl⟩ := Prod.mk.inj e
    rw [(List.mergeSort_perm _ _).mem_iff, List.mem_eraseDups] at mem
    exact ⟨mem, rfl, by simpa using some⟩
  · rintro ⟨mem, rfl, some⟩
    refine ⟨⟨id, ?_, rfl⟩, by simpa using some⟩
    rwa [(List.mergeSort_perm _ _).mem_iff, List.mem_eraseDups]

/-- What is found for a given file in the tags of files. -/
theorem getD_lookup_tagsByFile {ids : List Int} {id : Int} (given : id ∈ ids) :
    ((c.tagsByFile ids).lookup id).getD [] = c.tagsOf id := by
  cases found : (c.tagsByFile ids).lookup id with
  | some names =>
    obtain ⟨before, behind, split, _⟩ := List.lookup_eq_some_iff.1 found
    have mem : (id, names) ∈ c.tagsByFile ids := split ▸ List.mem_append_cons_self
    exact (mem_tagsByFile_iff.1 mem).2.1
  | none =>
    by_contra some
    have mem := mem_tagsByFile_iff.2 ⟨given, rfl, Ne.symm some⟩
    have other := List.lookup_eq_none_iff.1 found _ mem
    exact bne_iff_ne.1 other rfl

theorem tagsByFile?_eq_some_iff {capacity : Nat} {ids : List Int}
    {answer : List (Int × List String)} :
    c.tagsByFile? capacity ids = some answer ↔
      ids.length ≤ capacity ∧ answer = c.tagsByFile ids := by
  rw [tagsByFile?]
  split
  · rename_i fits
    rw [Option.some_inj, eq_comm, and_iff_right fits]
  · rename_i beyond
    exact iff_of_false nofun fun h => beyond h.1

theorem nodup_tagsByFile (c : Catalog) (ids : List Int) :
    ((c.tagsByFile ids).map (·.1)).Nodup := by
  have keys : (ids.eraseDups.mergeSort fun a b => decide (a ≤ b)).Nodup :=
    (List.mergeSort_perm _ _).nodup_iff.2 (nodup_eraseDups _)
  refine List.Nodup.sublist (List.filter_sublist.map _) ?_
  rw [List.map_map]
  exact (List.map_id _).symm ▸ keys

/-! ## What is said of the tags -/

/-- What searching, counting and listing say of the tags: `found name` are the files that a search
for the tag finds, whatever the match of paths is. -/
structure TagViews (c : Catalog) (found : String → List FileRecord) : Prop where
  searched : ∀ name m, c.search (.term (.tag name)) m none = .ok (found name)
  counted : ∀ name, c.countTagged name = (found name).length
  listed : ∀ name n, (name, n) ∈ c.listTags ↔ n = c.countTagged name ∧ 0 < n
  in_order : c.listTags.Pairwise fun s t => s.1 < t.1
  rows : (c.listTags.map (·.2)).sum = c.tags.length
  /-- A file is listed once, and if it is given and has tags. -/
  files_distinct : ∀ ids, ((c.tagsByFile ids).map (·.1)).Nodup
  files_listed : ∀ ids id,
    id ∈ (c.tagsByFile ids).map (·.1) ↔ id ∈ ids ∧ ∃ name, (id, name) ∈ c.tags
  names_in_order : ∀ ids, ∀ entry ∈ c.tagsByFile ids, entry.2.Pairwise (· < ·)
  names_found : ∀ ids, ∀ entry ∈ c.tagsByFile ids, ∀ name,
    name ∈ entry.2 ↔ ∃ f ∈ found name, f.id = entry.1
  /-- As many files can be given as a statement can bind numbers, and no more. -/
  files_within : ∀ capacity ids answer, c.tagsByFile? capacity ids = some answer ↔
    ids.length ≤ capacity ∧ answer = c.tagsByFile ids

/-- **In tables that agree, all views of the tags agree.** -/
theorem tagViews (consistent : c.Consistent) (mirrored : c.Mirrored) : c.TagViews c.tagged where
  searched := c.search_tag
  counted := countTagged_eq_length consistent mirrored
  listed _ _ := mem_listTags_iff
  in_order := c.pairwise_listTags
  rows := c.sum_listTags
  files_distinct := c.nodup_tagsByFile
  files_listed ids id := by
    rw [List.mem_map]
    constructor
    · rintro ⟨⟨id, names⟩, mem, rfl⟩
      obtain ⟨given, rfl, some⟩ := mem_tagsByFile_iff.1 mem
      obtain ⟨name, has⟩ := List.exists_mem_of_ne_nil _ some
      exact ⟨given, name, mem_tagsOf_iff.1 has⟩
    · rintro ⟨given, name, has⟩
      have some : c.tagsOf id ≠ [] := List.ne_nil_of_mem (mem_tagsOf_iff.2 has)
      exact ⟨_, mem_tagsByFile_iff.2 ⟨given, rfl, some⟩, rfl⟩
  names_in_order ids := by
    rintro ⟨id, names⟩ mem
    obtain ⟨_, rfl, _⟩ := mem_tagsByFile_iff.1 mem
    exact c.pairwise_tagsOf id
  names_found ids := by
    rintro ⟨id, names⟩ mem name
    obtain ⟨_, rfl, _⟩ := mem_tagsByFile_iff.1 mem
    rw [mem_tagsOf_iff, exists_mem_tagged_iff consistent mirrored]
  files_within _ _ _ := tagsByFile?_eq_some_iff

end Catalog

namespace Session

/-- **Counts, lists and searches of tags agree** after every run of routine actions. As many files
are counted as a search for the tag finds; a tag is listed with its count exactly if that is
positive; tags are listed in increasing order, and their counts add up to the number of rows. Of
given files exactly those that have tags are listed, each once, with their tags in increasing order,
and these are the tags whose search finds the file. If the capacity matters, the tags of as many
files are listed as it says, and of no more. -/
theorem tag_views_agree {actions : List IndexAction}
    (routine : ∀ a ∈ actions, a.isRoutine = true) :
    ∃ found, (fresh.run actions).catalog.TagViews found :=
  ⟨_, Catalog.tagViews (consistent_run actions).1 (mirrored_run routine).1⟩

/-- A tagged file is moved over another one, whose tags go. -/
theorem tag_views_agree_replaced :
    let actions : List IndexAction :=
      [.build "root" ["a", "b"] false, .addTags ["a", "b"] ["x"], .addTags ["b"] ["y"],
        .applyChanges [⟨.moved, "a", some "b"⟩], .reopen]
    (∀ a ∈ actions, a.isRoutine = true) ∧ (fresh.run actions).catalog.listTags = [("x", 1)] ∧
    ∃ found, (fresh.run actions).catalog.TagViews found :=
  ⟨by decide, by cbv, tag_views_agree (by decide)⟩

end Session

end TagSearch
