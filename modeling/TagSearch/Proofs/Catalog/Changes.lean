import TagSearch.Catalog.Change
import Mathlib.Data.List.Basic

/-!
# Changes that count

A change that does not count leaves the catalog as it is, and so does a list of changes of which
none counts.

* `steps_cons` applies the first change and then the others.
* `steps_of_not_counted`: changes of which none counts change nothing.
-/

namespace TagSearch.Catalog

variable {c : Catalog}

/-! ## One change -/

theorem markDirMissing_of_nonePresent {dir : String} (h : (c.presentBelow dir).isEmpty = true) :
    c.markDirMissing dir = c := by
  have same : (c.files.map fun r => if isBelow dir r.path then { r with present := false } else r)
      = c.files := by
    refine (List.map_congr_left fun r hr => ?_).trans (List.map_id _)
    by_cases below : isBelow dir r.path = true
    · have gone : r.present = false := by
        by_contra present
        have mem : r ∈ c.presentBelow dir :=
          List.mem_filter.2 ⟨hr, by rw [below, eq_true_of_ne_false present]; rfl⟩
        rw [List.isEmpty_iff.1 h] at mem
        cases mem
      rw [if_pos below, ← gone, id]
    · rw [if_neg below, id]
  rw [markDirMissing, same]

theorem renameDir_of_nonePresent {old : String} (new : String)
    (h : (c.presentBelow old).isEmpty = true) : c.renameDir old new = c := by
  rw [renameDir, dirMoves, List.isEmpty_iff.1 h]
  rfl

/-- **A change that does not count changes nothing.** -/
theorem step_of_not_counted {e : Change} (h : (c.step e).2 = false) : (c.step e).1 = c := by
  obtain ⟨kind, path, dest?⟩ := e
  cases kind with
  | created => cases h
  | deleted =>
    have unknown : c.find? path = none := by simpa [step] using h
    show c.markMissing path = c
    rw [markMissing, unknown]
  | dirDeleted => exact markDirMissing_of_nonePresent (by simpa [step] using h)
  | moved =>
    cases dest? with
    | none => rfl
    | some dest => cases h
  | dirMoved =>
    cases dest? with
    | none => rfl
    | some dest => exact renameDir_of_nonePresent dest (by simpa [step] using h)

/-! ## A list of changes -/

/-- What was counted before is added to the count. -/
theorem foldl_step_add (events : List Change) (c : Catalog) (m n : Nat) :
    events.foldl
        (fun (c, n) e =>
          let (c, counts) := c.step e
          (c, if counts then n + 1 else n))
        (c, m + n) =
      let r := events.foldl
        (fun (c, n) e =>
          let (c, counts) := c.step e
          (c, if counts then n + 1 else n))
        (c, m)
      (r.1, r.2 + n) := by
  induction events generalizing c m with
  | nil => rfl
  | cons e events ih =>
    simp only [List.foldl_cons]
    cases (c.step e).2 with
    | false => exact ih _ m
    | true =>
      rw [if_pos rfl, if_pos rfl, Nat.add_right_comm]
      exact ih _ (m + 1)

/-- The first change is applied, then the others. -/
theorem steps_cons (e : Change) (events : List Change) :
    c.steps (e :: events) =
      (((c.step e).1.steps events).1,
        ((c.step e).1.steps events).2 + if (c.step e).2 then 1 else 0) := by
  have first : (if (c.step e).2 then 0 + 1 else 0) = 0 + if (c.step e).2 then 1 else 0 := by
    split <;> rfl
  rw [steps, steps, ← foldl_step_add, ← first]
  rfl

/-- **Changes of which none counts change nothing.** -/
theorem steps_of_not_counted {events : List Change} (h : (c.steps events).2 = 0) :
    (c.steps events).1 = c := by
  induction events generalizing c with
  | nil => rfl
  | cons e events ih =>
    rw [steps_cons] at h ⊢
    obtain ⟨rest, first⟩ := Nat.add_eq_zero_iff.1 h
    have uncounted : (c.step e).2 = false := by
      cases counts : (c.step e).2 with
      | false => rfl
      | true =>
        rw [counts] at first
        cases first
    rw [step_of_not_counted uncounted] at rest ⊢
    exact ih rest

end TagSearch.Catalog
