import TagSearch.Proofs.Catalog.Changes
import TagSearch.Proofs.Catalog.Consistency
import TagSearch.Proofs.Text.TagToken

/-!
# The token table mirrors the tags

A search looks at the token table where it means the tags. Both say the same as long as the table
has exactly one row for every tag, which is what every refresh of the table establishes.

* `Catalog.Mirrored` is this agreement of the token table with the tags.
* `hasToken_iff`: in a table that mirrors the tags, the token of a tag is found where the tag is.
* `mirrored_applyChanges`, `mirrored_addTags`, …: what counts is followed by a refresh.
* `Mirrored.applyChanges`, `Mirrored.addTags`, …: what does not count changes no tag.
-/

namespace TagSearch.Catalog

variable {c : Catalog}

/-- The token table has exactly one row for each tag, with the digits of the tag and the number of
its file, and no other row. -/
def Mirrored (c : Catalog) : Prop := c.tokens.Perm (c.tags.map fun t => (Text.hex t.2, t.1))

/-- **A refresh makes any token table mirror the tags.** -/
theorem mirrored_refreshTokens (c : Catalog) : c.refreshTokens.Mirrored := by
  refine .of_eq (List.map_congr_left fun t _ => ?_)
  show (storedCell t.2, t.1) = (Text.hex t.2, t.1)
  rw [storedCell_eq_tagToken, tagToken]

/-- **The token of a tag is found where the tag is.** -/
theorem hasToken_iff (consistent : c.Consistent) (mirrored : c.Mirrored)
    {name : String} {id : Int} :
    c.hasToken (tagToken name) id = true ↔ (id, name) ∈ c.tags := by
  rw [hasToken, List.any_eq_true]
  constructor
  · rintro ⟨row, mem, holds⟩
    obtain ⟨t, ht, rfl⟩ := List.mem_map.1 (mirrored.subset mem)
    dsimp only at holds
    rw [← tagToken, cellTokens_tagToken (consistent.tags_trimmed t ht).1] at holds
    simp only [Bool.and_eq_true, beq_iff_eq, List.contains_iff_mem, List.mem_singleton,
      tagToken_inj] at holds
    obtain ⟨rfl, rfl⟩ := holds
    exact ht
  · intro ht
    refine ⟨_, mirrored.symm.subset (List.mem_map_of_mem ht), ?_⟩
    dsimp only
    rw [← tagToken, cellTokens_tagToken (consistent.tags_trimmed _ ht).1]
    simp

/-! ## Tables that are changed -/

/-- Tags that change in number are followed by a refresh, whatever the table was. -/
theorem mirrored_withTags {rows : List (Int × String)} (h : rows.length ≠ c.tags.length) :
    (c.withTags rows).Mirrored := by
  rw [withTags, if_neg h]
  exact mirrored_refreshTokens _

/-- Changes of which some count are followed by a refresh, whatever the table was. -/
theorem mirrored_applyChanges {events : List Change} (h : (c.applyChanges events).2 ≠ 0) :
    (c.applyChanges events).1.Mirrored := by
  rw [Catalog.applyChanges] at h ⊢
  dsimp only at h ⊢
  rw [if_neg h]
  exact mirrored_refreshTokens _

theorem mirrored_addTags {paths tags : List String} {r : Catalog × Nat}
    (added : c.addTags paths tags = .ok r) (h : r.2 ≠ 0) : r.1.Mirrored := by
  obtain ⟨rows, e, changed⟩ := addTags_withTags added
  rw [e]
  exact mirrored_withTags (changed h)

theorem mirrored_removeTags {paths tags : List String} {r : Catalog × Nat}
    (removed : c.removeTags paths tags = .ok r) (h : r.2 ≠ 0) : r.1.Mirrored := by
  obtain ⟨rows, e, changed⟩ := removeTags_withTags removed
  rw [e]
  exact mirrored_withTags (changed h)

/-- A scan is followed by a refresh, whatever the table was. -/
theorem mirrored_scanned (c : Catalog) (root : String) (found : List String) (prune : Bool) :
    (Session.scanned c root found prune).Mirrored :=
  mirrored_refreshTokens (c.sync found prune)

namespace Mirrored

theorem place (h : c.Mirrored) (path : String) : (c.place path).Mirrored := by
  rw [Catalog.place]
  cases c.find? path with
  | none => exact h
  | some f => exact h

theorem markMissing (h : c.Mirrored) (path : String) : (c.markMissing path).Mirrored := by
  rw [Catalog.markMissing]
  cases c.find? path with
  | none => exact h
  | some f => exact h

theorem markDirMissing (h : c.Mirrored) (dir : String) : (c.markDirMissing dir).Mirrored := h

theorem withTags (h : c.Mirrored) (rows : List (Int × String)) : (c.withTags rows).Mirrored := by
  by_cases same : rows.length = c.tags.length
  · rw [Catalog.withTags, if_pos same]
    exact h
  · exact mirrored_withTags same

/-- **Changes keep the agreement**: without a refresh, nothing changed. -/
theorem applyChanges (h : c.Mirrored) (events : List Change) :
    (c.applyChanges events).1.Mirrored := by
  by_cases none : (c.applyChanges events).2 = 0
  · have uncounted : (c.steps events).2 = 0 := none
    rw [Catalog.applyChanges]
    dsimp only
    rw [if_pos uncounted, steps_of_not_counted uncounted]
    exact h
  · exact mirrored_applyChanges none

theorem addTags (h : c.Mirrored) {paths tags : List String} {r : Catalog × Nat}
    (added : c.addTags paths tags = .ok r) : r.1.Mirrored := by
  obtain ⟨rows, e, _⟩ := addTags_withTags added
  rw [e]
  exact h.withTags rows

theorem removeTags (h : c.Mirrored) {paths tags : List String} {r : Catalog × Nat}
    (removed : c.removeTags paths tags = .ok r) : r.1.Mirrored := by
  obtain ⟨rows, e, _⟩ := removeTags_withTags removed
  rw [e]
  exact h.withTags rows

/-- What is stored and opened again has the same rows. -/
theorem reopened (h : c.Mirrored) : c.stored.open.Mirrored := h

end Mirrored

end TagSearch.Catalog
