import TagSearch.Catalog.Basic
import Mathlib.Data.List.Basic

/-!
# Recorded paths and numbers

* `mem_of_find?` and `find?_eq_none_iff`: what a path is recorded as.
* `id_lt_nextId`: the next number is larger than every number in use.
-/

namespace TagSearch.Catalog

variable {c : Catalog}

/-! ## Looking paths up -/

theorem mem_of_find? {path : String} {f : FileRecord} (h : c.find? path = some f) :
    f ∈ c.files ∧ f.path = path :=
  ⟨List.mem_of_find?_eq_some h, by simpa using List.find?_some h⟩

theorem find?_eq_none_iff {path : String} :
    c.find? path = none ↔ ∀ f ∈ c.files, f.path ≠ path := by
  simp [find?]

/-! ## The next number -/

theorem le_foldl_max (ids : List Int) (start : Int) :
    start ≤ ids.foldl max start ∧ ∀ i ∈ ids, i ≤ ids.foldl max start := by
  induction ids generalizing start with
  | nil => simp
  | cons i ids ih =>
    obtain ⟨low, high⟩ := ih (max start i)
    rw [List.foldl_cons]
    refine ⟨by omega, fun j hj => ?_⟩
    rcases List.mem_cons.1 hj with rfl | hj
    · omega
    · exact high j hj

theorem id_lt_nextId {f : FileRecord} (hf : f ∈ c.files) : f.id < c.nextId := by
  have hid := List.mem_map_of_mem (f := (·.id)) hf
  rw [nextId]
  cases hids : c.files.map (·.id) with
  | nil => simp [hids] at hid
  | cons i ids =>
    rw [hids] at hid
    obtain ⟨low, high⟩ := le_foldl_max ids i
    rcases List.mem_cons.1 hid with rfl | hid
    · exact Int.lt_add_one_of_le low
    · exact Int.lt_add_one_of_le (high _ hid)

theorem nextId_pos (h : ∀ f ∈ c.files, 0 < f.id) : 0 < c.nextId := by
  cases hf : c.files with
  | nil => simp [nextId, hf]
  | cons f files =>
    have mem : f ∈ c.files := by rw [hf]; exact List.mem_cons_self
    exact Int.lt_trans (h f mem) (id_lt_nextId mem)

end TagSearch.Catalog
