import Mathlib.Data.Nat.Log
import TagSearch.Expr.Balanced
import TagSearch.Expr.Meaning

/-!
# Folded expressions

Expressions that are combined over their halves by a connective. However they are combined, they are
bracketed in the same way, and what is true of a fold follows from its bracketing: every item stands
below as many connectives as the logarithm of the number of items, rounded down or up; the fold
holds of a file if all items do, or some; and the items are found again by taking it apart.

* `Bracketing` is a way to bracket items, and `exists_bracketing` gives that of a fold.
* `Junction` is a connective; `holds_balanced` is the truth of a fold.
* `Expr.operands` takes an expression apart at a connective; `operands_balanced` gives the items of
  a fold back, and `balanced_injective` says that no other items have the same fold.
-/

namespace TagSearch

/-! ## Bracketings -/

/-- A way to bracket items. -/
inductive Bracketing (α : Type) where
  /-- An item that stands alone. -/
  | item (a : α)
  /-- Two bracketings within one more bracket. -/
  | pair (left right : Bracketing α)

namespace Bracketing

variable {α : Type}

/-- The items from left to right. -/
def items : Bracketing α → List α
  | item a => [a]
  | pair l r => l.items ++ r.items

/-- The numbers of brackets around the items, from left to right. -/
def depths : Bracketing α → List ℕ
  | item _ => [0]
  | pair l r => (l.depths ++ r.depths).map (· + 1)

/-- The items combined as they are bracketed. -/
def combine (f : α → α → α) : Bracketing α → α
  | item a => a
  | pair l r => f (l.combine f) (r.combine f)

end Bracketing

section Halves

variable {α : Type}

/-- Several items are combined over two halves. The first half is as long as the second one, or one
item shorter. -/
theorem exists_halves {items : List α} (ne : items ≠ []) (several : items.length ≠ 1) :
    ∃ left right : List α, ∃ (hl : left ≠ []) (hr : right ≠ []), items = left ++ right ∧
      left.length ≤ right.length ∧ right.length ≤ left.length + 1 ∧
      ∀ f, balanced f items ne = f (balanced f left hl) (balanced f right hr) := by
  have pos : 0 < items.length := List.length_pos_iff.2 ne
  refine ⟨items.take (items.length / 2), items.drop (items.length / 2), ?_, ?_,
    (List.take_append_drop _ items).symm, ?_, ?_, fun f => ?_⟩
  · rw [← List.length_pos_iff, List.length_take]
    omega
  · rw [← List.length_pos_iff, List.length_drop]
    omega
  · simp only [List.length_take, List.length_drop]
    omega
  · simp only [List.length_take, List.length_drop]
    omega
  · rw [balanced, dif_neg several]

/-- The rounded logarithms of a number of items bound those of its halves, less one. -/
theorem log_half_bounds {m n : ℕ} (pos : 0 < m) (shorter : m ≤ n) (longer : n ≤ m + 1) :
    Nat.log 2 (m + n) = Nat.log 2 m + 1 ∧ Nat.clog 2 (m + n) = Nat.clog 2 n + 1 := by
  constructor
  · rw [Nat.log_of_one_lt_of_le Nat.one_lt_two (by omega), show (m + n) / 2 = m by omega]
  · rw [Nat.clog_of_two_le Nat.one_lt_two (by omega), show (m + n + 2 - 1) / 2 = n by omega]

/-- **A fold is bracketed in one way for all operations**, and no item is deeper or higher than the
rounded logarithms of the number of items. -/
theorem exists_bracketing (items : List α) (ne : items ≠ []) :
    ∃ b : Bracketing α, b.items = items ∧ (∀ f, balanced f items ne = b.combine f) ∧
      ∀ d ∈ b.depths, Nat.log 2 items.length ≤ d ∧ d ≤ Nat.clog 2 items.length := by
  induction length : items.length using Nat.strong_induction_on generalizing items with
  | _ n ih =>
    subst length
    by_cases one : items.length = 1
    · obtain ⟨a, rfl⟩ := List.length_eq_one_iff.1 one
      exact ⟨.item a, rfl, fun f => balanced_singleton f a ne, by simp [Bracketing.depths]⟩
    · obtain ⟨left, right, hl, hr, rfl, shorter, longer, halves⟩ := exists_halves ne one
      have pos : 0 < left.length := List.length_pos_iff.2 hl
      rw [List.length_append] at ih ⊢
      obtain ⟨l, itemsl, foldl, depthl⟩ := ih left.length (by omega) left hl rfl
      obtain ⟨r, itemsr, foldr, depthr⟩ := ih right.length (by omega) right hr rfl
      refine ⟨.pair l r, by rw [Bracketing.items, itemsl, itemsr], fun f => ?_, fun d hd => ?_⟩
      · rw [halves, foldl, foldr, Bracketing.combine]
      · obtain ⟨log, clog⟩ := log_half_bounds pos shorter longer
        have := Nat.log_mono_right (b := 2) shorter
        have := Nat.clog_mono_right 2 shorter
        rw [Bracketing.depths, List.mem_map] at hd
        obtain ⟨d, mem, rfl⟩ := hd
        rcases List.mem_append.1 mem with mem | mem
        · have := depthl d mem
          omega
        · have := depthr d mem
          omega

/-- What lies between the rounded logarithms is one of them. -/
theorem eq_log_or_eq_clog {d n : ℕ} (low : Nat.log 2 n ≤ d) (high : d ≤ Nat.clog 2 n) :
    d = Nat.log 2 n ∨ d = Nat.clog 2 n := by
  have : Nat.clog 2 n ≤ Nat.log 2 n + 1 :=
    Nat.clog_le_of_le_pow (Nat.lt_pow_succ_log_self Nat.one_lt_two n).le
  omega

end Halves

/-! ## Connectives -/

/-- A connective that expressions are folded by. -/
inductive Junction where
  | conjunction
  | disjunction
  deriving DecidableEq, Repr

namespace Junction

/-- Two expressions joined by a connective. -/
def join : Junction → Expr → Expr → Expr
  | conjunction => .and
  | disjunction => .or

/-- A connective holds of some expressions: of all, or of one at least. -/
def Unites (leaf : Term → Prop) (j : Junction) (items : List Expr) : Prop :=
  match j with
  | conjunction => ∀ e ∈ items, e.Holds leaf
  | disjunction => ∃ e ∈ items, e.Holds leaf

/-- An expression has a connective at its root. -/
def Joins (j : Junction) (e : Expr) : Prop := ∃ l r, e = j.join l r

end Junction

/-- The operands of a connective at the top of an expression, from left to right. -/
def Expr.operands (j : Junction) : Expr → List Expr
  | .and l r => match j with
    | .conjunction => l.operands j ++ r.operands j
    | .disjunction => [.and l r]
  | .or l r => match j with
    | .conjunction => [.or l r]
    | .disjunction => l.operands j ++ r.operands j
  | e => [e]

section Junction

variable {j : Junction} {leaf : Term → Prop} {items : List Expr}

theorem operands_join (j : Junction) (l r : Expr) :
    (j.join l r).operands j = l.operands j ++ r.operands j := by
  cases j <;> rfl

theorem operands_of_not_joins {e : Expr} (h : ¬ j.Joins e) : e.operands j = [e] := by
  cases e with
  | term t => rfl
  | not e => rfl
  | and l r => cases j with
    | conjunction => exact absurd ⟨l, r, rfl⟩ h
    | disjunction => rfl
  | or l r => cases j with
    | conjunction => rfl
    | disjunction => exact absurd ⟨l, r, rfl⟩ h

theorem holds_combine (b : Bracketing Expr) :
    (b.combine j.join).Holds leaf ↔ j.Unites leaf b.items := by
  induction b with
  | item e => cases j <;> simp [Bracketing.combine, Bracketing.items, Junction.Unites]
  | pair l r ihl ihr =>
    cases j with
    | conjunction =>
      simp only [Junction.Unites] at ihl ihr ⊢
      simp only [Bracketing.combine, Junction.join, Expr.Holds, Bracketing.items,
        List.forall_mem_append]
      exact and_congr ihl ihr
    | disjunction =>
      simp only [Junction.Unites] at ihl ihr ⊢
      simp only [Bracketing.combine, Junction.join, Expr.Holds, Bracketing.items, List.mem_append,
        or_and_right, exists_or]
      exact or_congr ihl ihr

theorem operands_combine (b : Bracketing Expr) (apart : ∀ e ∈ b.items, ¬ j.Joins e) :
    (b.combine j.join).operands j = b.items := by
  induction b with
  | item e => exact operands_of_not_joins (apart e (by simp [Bracketing.items]))
  | pair l r ihl ihr =>
    rw [Bracketing.items, List.forall_mem_append] at apart
    rw [Bracketing.combine, operands_join, ihl apart.1, ihr apart.2, Bracketing.items]

/-- **The truth of a fold**: all items hold, or one at least. -/
theorem holds_balanced (ne : items ≠ []) :
    (balanced j.join items ne).Holds leaf ↔ j.Unites leaf items := by
  obtain ⟨b, rfl, fold, -⟩ := exists_bracketing items ne
  rw [fold]
  exact holds_combine b

/-- **The operands of a fold are its items**, if none of these is itself joined. -/
theorem operands_balanced (ne : items ≠ []) (apart : ∀ e ∈ items, ¬ j.Joins e) :
    (balanced j.join items ne).operands j = items := by
  obtain ⟨b, rfl, fold, -⟩ := exists_bracketing items ne
  rw [fold]
  exact operands_combine b apart

/-- **Folding is injective** on items that are not themselves joined. -/
theorem balanced_injective {others : List Expr} {ne : items ≠ []} {ne' : others ≠ []}
    (apart : ∀ e ∈ items, ¬ j.Joins e) (apart' : ∀ e ∈ others, ¬ j.Joins e)
    (same : balanced j.join items ne = balanced j.join others ne') : items = others := by
  rw [← operands_balanced ne apart, same, operands_balanced ne' apart']

/-- A fold by one connective is not joined by the other one, unless it is an item that is. -/
theorem not_joins_balanced {k : Junction} (other : j ≠ k) (ne : items ≠ [])
    (apart : ∀ e ∈ items, ¬ k.Joins e) : ¬ k.Joins (balanced j.join items ne) := by
  obtain ⟨b, rfl, fold, -⟩ := exists_bracketing items ne
  rw [fold]
  cases b with
  | item e => exact apart e (by simp [Bracketing.items])
  | pair l r =>
    rintro ⟨l', r', same⟩
    cases j <;> cases k <;> simp [Bracketing.combine, Junction.join] at same other

end Junction

end TagSearch
