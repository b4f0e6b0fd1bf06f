/-!
# Balanced combination

A non-empty list combined by a binary operation into a tree of least height: the list is cut in the
middle, the shorter half first, and the two halves are combined in the same way.

* `NonemptyList` is a first item and a list of further ones.
* `balanced` is the combination; a list of one item is that item.
-/

namespace TagSearch

/-- A list with at least one item. -/
structure NonemptyList (α : Type) where
  head : α
  tail : List α
  deriving DecidableEq, Repr

namespace NonemptyList

variable {α β ε : Type}

/-- The items in order. -/
def toList (l : NonemptyList α) : List α := l.head :: l.tail

/-- The list with one item. -/
def single (a : α) : NonemptyList α := ⟨a, []⟩

/-- The list with one more item in front. -/
def push (a : α) (l : NonemptyList α) : NonemptyList α := ⟨a, l.toList⟩

@[simp] theorem toList_single (a : α) : (single a).toList = [a] := rfl

@[simp] theorem toList_push (a : α) (l : NonemptyList α) : (l.push a).toList = a :: l.toList := rfl

/-- A function applied to all items. -/
def map (f : α → β) (l : NonemptyList α) : NonemptyList β := ⟨f l.head, l.tail.map f⟩

@[simp] theorem toList_map (f : α → β) (l : NonemptyList α) : (l.map f).toList = l.toList.map f :=
  rfl

theorem toList_ne_nil (l : NonemptyList α) : l.toList ≠ [] := List.cons_ne_nil _ _

/-- The results of a function on all items; the leftmost failure comes first. -/
def mapExcept (f : α → Except ε β) (l : NonemptyList α) : Except ε (NonemptyList β) := do
  let head ← f l.head
  let tail ← l.tail.mapM f
  return ⟨head, tail⟩

end NonemptyList

/-- The items of a non-empty list combined over its two halves. -/
def balanced {α : Type} (combine : α → α → α) (items : List α) (ne : items ≠ []) : α :=
  if h : items.length = 1 then items.head ne
  else
    have : 0 < items.length := List.length_pos_iff.2 ne
    combine
      (balanced combine (items.take (items.length / 2)) (by
        simp only [ne_eq, List.take_eq_nil_iff, not_or]; exact ⟨by omega, ne⟩))
      (balanced combine (items.drop (items.length / 2)) (by
        simp only [ne_eq, List.drop_eq_nil_iff]; omega))
termination_by items.length
decreasing_by
  · simp only [List.length_take]; omega
  · simp only [List.length_drop]; omega

@[simp] theorem balanced_singleton {α : Type} (combine : α → α → α) (a : α) (ne : [a] ≠ []) :
    balanced combine [a] ne = a := by
  rw [balanced]; simp

/-- The items of a list combined over its two halves. -/
def NonemptyList.balanced {α : Type} (combine : α → α → α) (l : NonemptyList α) : α :=
  TagSearch.balanced combine l.toList l.toList_ne_nil

end TagSearch
