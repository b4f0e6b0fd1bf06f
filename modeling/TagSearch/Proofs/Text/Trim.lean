import TagSearch.Text.Blank
import Mathlib.Data.List.DropRight

/-!
# Trimmed texts

A trimmed text starts and ends with a character that is not blank, unless it is empty, and so it is
not changed when it is trimmed again.

* `Text.trim_trim`: trimming twice is trimming once.
* `Text.trim_ne_empty`: something is left of a text that is not blank.
-/

namespace TagSearch.Text

theorem dropBlankEnd_eq_rdropWhile (s : List Char) : dropBlankEnd s = s.rdropWhile isBlank := rfl

/-- The end that is dropped leaves the start of a text alone. -/
theorem dropWhile_dropBlankEnd {s : List Char} (h : s.dropWhile isBlank = s) :
    (dropBlankEnd s).dropWhile isBlank = dropBlankEnd s := by
  rw [dropBlankEnd_eq_rdropWhile]
  obtain ⟨t, ht⟩ := s.rdropWhile_prefix isBlank
  cases hs : s.rdropWhile isBlank with
  | nil => rfl
  | cons c r =>
    rw [hs, List.cons_append] at ht
    rw [← ht, List.dropWhile_cons] at h
    by_cases hc : isBlank c = true
    · -- The dropped text would be shorter than the text itself.
      rw [if_pos hc] at h
      have := (List.dropWhile_sublist isBlank (l := r ++ t)).length_le
      rw [h, List.length_cons] at this
      omega
    · rw [List.dropWhile_cons, if_neg hc]

/-- **Trimming twice is trimming once.** -/
theorem trim_trim (s : String) : trim (trim s) = trim s := by
  have start : (s.toList.dropWhile isBlank).dropWhile isBlank = s.toList.dropWhile isBlank :=
    List.dropWhile_idempotent _ _
  rw [trim, trim, String.toList_ofList, dropWhile_dropBlankEnd start, dropBlankEnd_eq_rdropWhile,
    dropBlankEnd_eq_rdropWhile, List.rdropWhile_idempotent]

theorem trim_eq_empty_iff {s : String} : trim s = "" ↔ isBlankText s = true := by
  rw [trim, dropBlankEnd_eq_rdropWhile, isBlankText, ← String.toList_inj, String.toList_ofList,
    String.toList_empty, List.rdropWhile_eq_nil_iff, List.all_eq_true]
  constructor
  · intro h c hc
    by_contra hb
    have head : s.toList.dropWhile isBlank ≠ [] := by
      rw [ne_eq, List.dropWhile_eq_nil_iff]
      exact fun all => hb (all c hc)
    have first := h _ (List.head_mem head)
    rw [List.head_dropWhile_not isBlank head] at first
    cases first
  · exact fun h c hc => h c ((List.dropWhile_sublist _).subset hc)

theorem trim_ne_empty {s : String} (h : isBlankText s = false) : trim s ≠ "" := fun e => by
  rw [trim_eq_empty_iff.1 e] at h
  cases h

end TagSearch.Text
