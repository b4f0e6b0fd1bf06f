import Mathlib.Data.Finset.Prod
import TagSearch.Proofs.Catalog.History

/-!
# Tags as sets of pairs

The tags of a catalog are a set of pairs, each of the number of a file and a name. Adding tags to
files joins the product of their numbers and names to this set, removing tags takes it away, and what
is counted are the pairs that come or go, however often a file or a name is given.

* `normalizeTags_eq` and `normalizeTags_self`: the names are the trimmed tags as they are seen first.
* `Catalog.Refuses` and `Refuses.bind`: what prevents that tags are edited.
* `Catalog.toFinset_tags_addTags`, `toFinset_tags_removeTags`: the sets after tags were edited.
* `Catalog.count_addTags`, `count_removeTags`: the pairs that are counted.
* `Session.removeTags?_eq_some_iff`: when tags are removed within a capacity.
* `Session.tags_edited_as_sets`: all of it for a session.
-/

namespace TagSearch

variable {tags names paths : List String}

/-! ## Names -/

theorem find?_isBlankText (tags : List String) :
    tags.find? Text.isBlankText = tags.find? fun t => Text.trim t = "" :=
  List.find?_congr fun t _ => by rw [Bool.eq_iff_iff, decide_eq_true_iff, Text.trim_eq_empty_iff]

/-- Without its repetitions a list is as long as the set of its members is large. -/
theorem length_eraseDups {α : Type} [DecidableEq α] (l : List α) :
    l.eraseDups.length = l.toFinset.card := by
  rw [← List.toFinset_card_of_nodup (nodup_eraseDups l)]
  congr 1
  ext a
  rw [List.mem_toFinset, List.mem_toFinset, List.mem_eraseDups]

theorem normalizeTags_of_blank {text : String}
    (blank : tags.find? (fun t => Text.trim t = "") = some text) :
    normalizeTags tags = .error (.blankTag text) := by
  rw [normalizeTags, find?_isBlankText, blank]

theorem normalizeTags_eq (named : ∀ t ∈ tags, Text.trim t ≠ "") :
    normalizeTags tags = .ok (tags.map Text.trim).eraseDups := by
  have none : tags.find? Text.isBlankText = Option.none := by
    rw [find?_isBlankText, List.find?_eq_none]
    simpa using named
  simp only [normalizeTags, none]

theorem named_of_normalizeTags (h : normalizeTags tags = .ok names) :
    ∀ t ∈ tags, Text.trim t ≠ "" := by
  intro t ht blank
  cases found : tags.find? fun t => Text.trim t = "" with
  | none => exact List.find?_eq_none.1 found t ht (decide_eq_true blank)
  | some text =>
    rw [normalizeTags_of_blank found] at h
    cases h

/-- **Names are their own names.** -/
theorem normalizeTags_self (h : normalizeTags tags = .ok names) :
    normalizeTags names = .ok names := by
  have trimmed := Catalog.trimmed_of_normalizeTags h
  have distinct : names.Nodup := by
    rw [normalizeTags_eq (named_of_normalizeTags h)] at h
    exact Except.ok.inj h ▸ nodup_eraseDups _
  have same : names.map Text.trim = names :=
    (List.map_congr_left fun name mem => (trimmed name mem).2).trans (List.map_id _)
  rw [normalizeTags_eq fun name mem => (trimmed name mem).2.symm ▸ (trimmed name mem).1, same,
    eraseDups_of_nodup distinct]

namespace Catalog

variable {c : Catalog} {e : TaggingError} {r : Catalog × Nat}

/-! ## Edits that are refused -/

/-- **Files are refused by the first path that is not recorded.** -/
theorem errorOf?_fileIds (c : Catalog) (paths : List String) :
    errorOf? (c.fileIds paths) = (paths.find? (!c.records ·)).map .notIndexed := by
  rw [fileIds, errorOf?_mapM]
  induction paths with
  | nil => rfl
  | cons p paths ih =>
    rw [List.findSome?_cons, List.find?_cons, ih, records]
    cases c.find? p <;> rfl

theorem exists_fileIds (recorded : ∀ p ∈ paths, c.records p = true) :
    ∃ ids, c.fileIds paths = .ok ids := by
  have none : errorOf? (c.fileIds paths) = Option.none := by
    rw [errorOf?_fileIds, List.find?_eq_none.2 (by simpa using recorded), Option.map_none]
  cases result : c.fileIds paths with
  | error e =>
    rw [result] at none
    cases none
  | ok ids => exact ⟨ids, rfl⟩

/-- What prevents that tags are edited: the first blank tag, and if there is none, the first path
that is not recorded. -/
inductive Refuses (c : Catalog) (paths tags : List String) : TaggingError → Prop where
  | blankTag {text : String} (blank : tags.find? (fun t => Text.trim t = "") = some text) :
    Refuses c paths tags (.blankTag text)
  | notIndexed {path : String} (named : ∀ t ∈ tags, Text.trim t ≠ "")
    (unknown : paths.find? (!c.records ·) = some path) : Refuses c paths tags (.notIndexed path)

/-- Whatever is done with the names and numbers, it is not done. -/
theorem Refuses.bind {α : Type} (h : c.Refuses paths tags e)
    (k : List String → List Int → Except TaggingError α) :
    (do let names ← normalizeTags tags
        let ids ← c.fileIds paths
        k names ids) = .error e := by
  cases h with
  | blankTag blank =>
    rw [normalizeTags_of_blank blank]
    rfl
  | notIndexed named unknown =>
    have ids := errorOf?_eq_some_iff.1 ((c.errorOf?_fileIds paths).trans (by rw [unknown]; rfl))
    rw [normalizeTags_eq named, ids]
    rfl

/-! ## Edits that are not refused -/

theorem exists_addTags (named : ∀ t ∈ tags, Text.trim t ≠ "")
    (recorded : ∀ p ∈ paths, c.records p = true) :
    ∃ r, c.addTags paths tags = .ok r ∧ r.1.files = c.files := by
  obtain ⟨ids, found⟩ := exists_fileIds recorded
  exact ⟨_, addTags_eq_ok_iff.2 ⟨_, ids, normalizeTags_eq named, found, rfl⟩, files_withTags _⟩

theorem exists_removeTags (named : ∀ t ∈ tags, Text.trim t ≠ "")
    (recorded : ∀ p ∈ paths, c.records p = true) :
    ∃ r, c.removeTags paths tags = .ok r ∧ r.1.files = c.files := by
  obtain ⟨ids, found⟩ := exists_fileIds recorded
  exact ⟨_, removeTags_eq_ok_iff.2 ⟨_, ids, normalizeTags_eq named, found, rfl⟩, files_withTags _⟩

/-! ## Edits within a capacity -/

/-- The statements of a removal are within the capacity if that is greater than the number of names,
or if there are none of them. -/
theorem removalSize_le_iff {capacity : Nat} : removalSize paths tags ≤ capacity ↔
    paths = [] ∨ (tags.map Text.trim).toFinset.card < capacity := by
  cases paths with
  | nil => exact iff_of_true (Nat.zero_le capacity) (Or.inl rfl)
  | cons path paths =>
    show (tags.map Text.trim).eraseDups.length + 1 ≤ capacity ↔ _
    rw [length_eraseDups, or_iff_right (List.cons_ne_nil _ _), Nat.succ_le_iff]

/-! ## The sets of pairs -/

/-- The numbers of the files at some paths. -/
def idsAt (c : Catalog) (paths : List String) : Finset Int :=
  ((c.files.filter fun f => f.path ∈ paths).map (·.id)).toFinset

/-- The tags that a call names: the numbers of its paths with its trimmed names. -/
def pairsOf (c : Catalog) (paths tags : List String) : Finset (Int × String) :=
  c.idsAt paths ×ˢ (tags.map Text.trim).toFinset

theorem mem_idsAt_iff (h : c.Consistent) {id : Int} : id ∈ c.idsAt paths ↔ c.IsAt id paths := by
  rw [idsAt, List.mem_toFinset, List.mem_map]
  constructor
  · rintro ⟨f, mem, rfl⟩
    obtain ⟨hf, path⟩ := List.mem_filter.1 mem
    exact (Moment.isAt_iff h hf).2 (of_decide_eq_true path)
  · rintro ⟨path, mem, f, found, rfl⟩
    obtain ⟨hf, rfl⟩ := mem_of_find? found
    exact ⟨f, List.mem_filter.2 ⟨hf, decide_eq_true mem⟩, rfl⟩

theorem mem_pairsOf_iff (h : c.Consistent) {id : Int} {name : String} :
    (id, name) ∈ c.pairsOf paths tags ↔ name ∈ tags.map Text.trim ∧ c.IsAt id paths := by
  rw [pairsOf, Finset.mem_product, mem_idsAt_iff h, List.mem_toFinset, and_comm]

/-- **Adding tags joins sets.** -/
theorem toFinset_tags_addTags (h : c.Consistent) (added : c.addTags paths tags = .ok r) :
    r.1.tags.toFinset = c.tags.toFinset ∪ c.pairsOf paths tags := by
  ext ⟨id, name⟩
  rw [Finset.mem_union, List.mem_toFinset, List.mem_toFinset, mem_tags_addTags added,
    mem_pairsOf_iff h]

/-- **Removing tags takes a set away.** -/
theorem toFinset_tags_removeTags (h : c.Consistent) (removed : c.removeTags paths tags = .ok r) :
    r.1.tags.toFinset = c.tags.toFinset \ c.pairsOf paths tags := by
  ext ⟨id, name⟩
  rw [Finset.mem_sdiff, List.mem_toFinset, List.mem_toFinset, mem_tags_removeTags removed,
    mem_pairsOf_iff h]

/-- The pairs that are new are counted. -/
theorem count_addTags (h : c.Consistent) (added : c.addTags paths tags = .ok r) :
    r.2 = (c.pairsOf paths tags \ c.tags.toFinset).card := by
  have count : r.2 = r.1.tags.length - c.tags.length := by
    obtain ⟨names, ids, _, _, rfl⟩ := addTags_eq_ok_iff.1 added
    dsimp only
    rw [tags_withTags fun same => ((prefix_insertTags _ _).eq_of_length same.symm).symm]
  have total := Finset.card_sdiff_add_card (c.pairsOf paths tags) c.tags.toFinset
  rw [Finset.union_comm, ← toFinset_tags_addTags h added,
    List.toFinset_card_of_nodup (h.addTags added).tags_distinct,
    List.toFinset_card_of_nodup h.tags_distinct] at total
  omega

/-- The pairs that go are counted. -/
theorem count_removeTags (h : c.Consistent) (removed : c.removeTags paths tags = .ok r) :
    r.2 = (c.tags.toFinset ∩ c.pairsOf paths tags).card := by
  have count : r.2 = c.tags.length - r.1.tags.length := by
    obtain ⟨names, ids, _, _, rfl⟩ := removeTags_eq_ok_iff.1 removed
    dsimp only
    rw [tags_withTags fun same => List.filter_eq_self.2 (List.length_filter_eq_length_iff.1 same)]
  have total := Finset.card_sdiff_add_card_inter c.tags.toFinset (c.pairsOf paths tags)
  rw [← toFinset_tags_removeTags h removed,
    List.toFinset_card_of_nodup (h.removeTags removed).tags_distinct,
    List.toFinset_card_of_nodup h.tags_distinct] at total
  omega

end Catalog

namespace Session

variable {s : Session}

/-- The session and the reply after an edit that is not refused. -/
theorem counted_ok {x : Except TaggingError (Catalog × Nat)} {r : Catalog × Nat} (hx : x = .ok r) :
    (s.counted (x.map s.settle)).1.catalog = r.1 ∧
      (s.counted (x.map s.settle)).2 = .count r.2 := by
  rw [catalog_counted, hx]
  exact ⟨rfl, rfl⟩

theorem perform_addTags_of_refuses {e : TaggingError} (h : s.catalog.Refuses paths tags e) :
    s.perform (.addTags paths tags) = (s, .refused e) := by
  have error : s.catalog.addTags paths tags = .error e := h.bind _
  rw [perform, Session.addTags, error]
  rfl

theorem perform_removeTags_of_refuses {e : TaggingError} (h : s.catalog.Refuses paths tags e) :
    s.perform (.removeTags paths tags) = (s, .refused e) := by
  have error : s.catalog.removeTags paths tags = .error e := h.bind _
  rw [perform, Session.removeTags, error]
  rfl

section

variable (h : s.catalog.Consistent) (named : ∀ t ∈ tags, Text.trim t ≠ "")
  (recorded : ∀ p ∈ paths, s.catalog.records p = true)

include h named recorded

/-- Tags that are added come to the set of tags, and the new ones are counted. -/
theorem added_as_union :
    let r := s.perform (.addTags paths tags)
    r.1.catalog.files = s.catalog.files ∧ r.1.catalog.tags.Nodup ∧
      r.1.catalog.tags.toFinset = s.catalog.tags.toFinset ∪ s.catalog.pairsOf paths tags ∧
      r.2 = .count (s.catalog.pairsOf paths tags \ s.catalog.tags.toFinset).card := by
  obtain ⟨r, result, files⟩ := Catalog.exists_addTags named recorded
  obtain ⟨tables, reply⟩ := counted_ok (s := s) result
  rw [← Catalog.count_addTags h result, ← Catalog.toFinset_tags_addTags h result, ← files, ← tables]
  exact ⟨rfl, tables ▸ (h.addTags result).tags_distinct, rfl, reply⟩

/-- Tags that are removed go from the set of tags, and those that went are counted. -/
theorem removed_as_difference :
    let r := s.perform (.removeTags paths tags)
    r.1.catalog.files = s.catalog.files ∧ r.1.catalog.tags.Nodup ∧
      r.1.catalog.tags.toFinset = s.catalog.tags.toFinset \ s.catalog.pairsOf paths tags ∧
      r.2 = .count (s.catalog.tags.toFinset ∩ s.catalog.pairsOf paths tags).card := by
  obtain ⟨r, result, files⟩ := Catalog.exists_removeTags named recorded
  obtain ⟨tables, reply⟩ := counted_ok (s := s) result
  rw [← Catalog.count_removeTags h result, ← Catalog.toFinset_tags_removeTags h result, ← files,
    ← tables]
  exact ⟨rfl, tables ▸ (h.removeTags result).tags_distinct, rfl, reply⟩

end

/-- **A removal within a capacity is one without**, if it is refused, or names no file, or has fewer
names than the capacity. Otherwise it has no result. -/
theorem removeTags?_eq_some_iff {capacity : Nat} {r : Except TaggingError (Session × Nat)} :
    s.removeTags? capacity paths tags = some r ↔ r = s.removeTags paths tags ∧
      ((∃ e, r = .error e) ∨ paths = [] ∨ (tags.map Text.trim).toFinset.card < capacity) := by
  rw [Session.removeTags?, Catalog.removeTags?, Session.removeTags]
  cases s.catalog.removeTags paths tags with
  | error e =>
    show some (.error e) = some r ↔ r = .error e ∧ _
    rw [Option.some_inj, eq_comm]
    exact ⟨fun same => ⟨same, Or.inl ⟨e, same⟩⟩, fun h => h.1⟩
  | ok result =>
    dsimp only
    split
    · rename_i fits
      show some (.ok (s.settle result)) = some r ↔ r = .ok (s.settle result) ∧ _
      rw [Option.some_inj, eq_comm]
      exact ⟨fun same => ⟨same, Or.inr (Catalog.removalSize_le_iff.1 fits)⟩, fun h => h.1⟩
    · rename_i beyond
      refine iff_of_false nofun ?_
      rintro ⟨rfl, ⟨_, ⟨⟩⟩ | fits⟩
      exact beyond (Catalog.removalSize_le_iff.2 fits)

/-- **Tags are edited as sets of pairs.** An edit is refused for the first blank tag, or else for
the first path that is not recorded, and then nothing changes. The names of tags that are not blank
are the trimmed tags in the order in which they are seen first, each once, and have themselves for
names. If all paths are recorded too, the pairs of the files at the paths with the names come to the
tags or go from them, no file changes, and the pairs that were new or that went are counted. If the
capacity matters, a removal that is not refused and names a file is carried out if there are fewer
names than the capacity says, and only then. -/
theorem tags_edited_as_sets (h : s.catalog.Consistent) (paths tags : List String) :
    let c := s.catalog
    let added := s.perform (.addTags paths tags)
    let removed := s.perform (.removeTags paths tags)
    (∀ e, c.Refuses paths tags e → added = (s, .refused e) ∧ removed = (s, .refused e)) ∧
    ((∀ t ∈ tags, Text.trim t ≠ "") →
      (∃ names, normalizeTags tags = .ok names ∧ normalizeTags names = .ok names ∧
        (∀ name, name ∈ names ↔ name ∈ tags.map Text.trim) ∧
        names.Pairwise fun a b => (tags.map Text.trim).idxOf a < (tags.map Text.trim).idxOf b) ∧
      ((∀ p ∈ paths, c.records p = true) →
        (added.1.catalog.files = c.files ∧ added.1.catalog.tags.Nodup ∧
          added.1.catalog.tags.toFinset = c.tags.toFinset ∪ c.pairsOf paths tags ∧
          added.2 = .count (c.pairsOf paths tags \ c.tags.toFinset).card) ∧
        removed.1.catalog.files = c.files ∧ removed.1.catalog.tags.Nodup ∧
          removed.1.catalog.tags.toFinset = c.tags.toFinset \ c.pairsOf paths tags ∧
          removed.2 = .count (c.tags.toFinset ∩ c.pairsOf paths tags).card)) ∧
    (∀ capacity r, s.removeTags? capacity paths tags = some r ↔ r = s.removeTags paths tags ∧
      ((∃ e, r = .error e) ∨ paths = [] ∨ (tags.map Text.trim).toFinset.card < capacity)) := by
  intro c added removed
  refine ⟨fun e refuses => ?_, fun named => ⟨?_, fun recorded => ?_⟩,
    fun _ _ => removeTags?_eq_some_iff⟩
  · exact ⟨perform_addTags_of_refuses refuses, perform_removeTags_of_refuses refuses⟩
  · have names := normalizeTags_eq named
    exact ⟨_, names, normalizeTags_self names, fun name => List.mem_eraseDups,
      pairwise_idxOf_eraseDups _⟩
  · exact ⟨added_as_union h named recorded, removed_as_difference h named recorded⟩

/-- A file that is named twice and a name that is spelled in two ways; a blank tag that comes before
a path that is not recorded, and such a path alone. -/
theorem tags_edited_as_sets_repeated :
    let s := fresh.run [.place "a", .place "b", .addTags ["a"] ["x"]]
    let added := s.perform (.addTags ["b", "a", "b"] [" x", "y", "x "])
    let removed := s.perform (.removeTags ["b", "a", "b"] [" x", "y", "x "])
    (s.catalog.Consistent ∧ (∀ t ∈ [" x", "y", "x "], Text.trim t ≠ "") ∧
      (∀ p ∈ ["b", "a", "b"], s.catalog.records p = true)) ∧
    (added.1.catalog.tags.toFinset = {(1, "x"), (1, "y"), (2, "x"), (2, "y")} ∧
      added.2 = .count 3) ∧
    (removed.1.catalog.tags.toFinset = ∅ ∧ removed.2 = .count 1) ∧
    s.perform (.addTags ["c", "a"] ["y", " "]) = (s, .refused (.blankTag " ")) ∧
    s.perform (.removeTags ["a", "c"] ["y"]) = (s, .refused (.notIndexed "c")) := by
  intro s added removed
  have consistent : s.catalog.Consistent := (consistent_run _).1
  have named : ∀ t ∈ [" x", "y", "x "], Text.trim t ≠ "" := by decide
  have recorded : ∀ p ∈ ["b", "a", "b"], s.catalog.records p = true := by decide +kernel
  obtain ⟨come, go⟩ := ((tags_edited_as_sets consistent _ _).2.1 named).2 recorded
  have old : s.catalog.tags.toFinset = {(1, "x")} := by decide +kernel
  have pairs : s.catalog.pairsOf ["b", "a", "b"] [" x", "y", "x "] =
      {(1, "x"), (1, "y"), (2, "x"), (2, "y")} := by decide +kernel
  rw [pairs, old] at come go
  refine ⟨⟨consistent, named, recorded⟩, ⟨come.2.2.1.trans (by decide), come.2.2.2.trans (by decide)⟩,
    ⟨go.2.2.1.trans (by decide), go.2.2.2.trans (by decide)⟩, ?_, ?_⟩
  · exact ((tags_edited_as_sets consistent _ _).1 _ (.blankTag (by decide))).1
  · have unknown : ["a", "c"].find? (!s.catalog.records ·) = some "c" := by decide +kernel
    exact ((tags_edited_as_sets consistent _ _).1 _ (.notIndexed (by decide) unknown)).2

end Session

end TagSearch
