import Mathlib.Data.List.Nodup
import Mathlib.Data.List.Forall2
import Mathlib.Data.List.Induction
import Mathlib.Data.List.Perm.Basic
import Mathlib.Data.List.TakeWhile

/-!
# Results that may fail, and runs of lists

* `bind_eq_ok_iff`: two steps succeed if the first does and then the second.
* `mapM_eq_ok_iff`: a step succeeds on a list if it succeeds item by item.
* `errorOf?_mapM`: the error on a list is that on the first item that has one.
* `nodup_eraseDups` and `pairwise_idxOf_eraseDups`: what is left of a list without its repetitions
  has none and keeps the order of first occurrence.
* `pairwise_sort_of_nodup` and `sort_eq_of_perm`: sorted texts are in strict order if they have no
  repetitions, and do not show their first order.
* `takeWhile_append_of_head?` and `dropWhile_append_of_head?`: a run ends where the next item does
  not continue it.
-/

namespace TagSearch

variable {α β ε : Type}

theorem bind_eq_ok_iff {x : Except ε α} {f : α → Except ε β} {b : β} :
    x >>= f = .ok b ↔ ∃ a, x = .ok a ∧ f a = .ok b := by
  cases x <;> simp [bind, Except.bind]

theorem bind_eq_error_iff {x : Except ε α} {f : α → Except ε β} {e : ε} :
    x >>= f = .error e ↔ x = .error e ∨ ∃ a, x = .ok a ∧ f a = .error e := by
  cases x <;> simp [bind, Except.bind]

theorem map_eq_ok_iff {x : Except ε α} {f : α → β} {b : β} :
    x.map f = .ok b ↔ ∃ a, x = .ok a ∧ f a = b := by
  cases x <;> simp [Except.map]

theorem mapError_eq_ok_iff {ε' : Type} {x : Except ε α} {f : ε → ε'} {a : α} :
    x.mapError f = .ok a ↔ x = .ok a := by
  cases x <;> simp [Except.mapError]

theorem mapError_eq_error_iff {ε' : Type} {x : Except ε α} {f : ε → ε'} {e : ε'} :
    x.mapError f = .error e ↔ ∃ e', x = .error e' ∧ f e' = e := by
  cases x <;> simp [Except.mapError]

/-- A step succeeds on a list if it succeeds item by item. -/
theorem mapM_eq_ok_iff {f : α → Except ε β} {l : List α} {r : List β} :
    l.mapM f = .ok r ↔ List.Forall₂ (fun a b => f a = .ok b) l r := by
  induction l generalizing r with
  | nil => simp [pure, Except.pure, eq_comm]
  | cons a l ih =>
    simp only [List.mapM_cons, bind_eq_ok_iff, ih, List.forall₂_cons_left_iff]
    constructor
    · rintro ⟨b, hb, bs, hbs, h⟩
      exact ⟨b, bs, hb, hbs, (Except.ok.inj h).symm⟩
    · rintro ⟨b, bs, hb, hbs, rfl⟩
      exact ⟨b, hb, bs, hbs, rfl⟩

/-- A check passes on a list if it passes item by item. -/
theorem forM_eq_ok_iff {f : α → Except ε Unit} {l : List α} :
    l.forM f = .ok () ↔ ∀ a ∈ l, f a = .ok () := by
  induction l with
  | nil => exact iff_of_true rfl (List.forall_mem_nil _)
  | cons a l ih =>
    rw [List.forM, bind_eq_ok_iff, List.forall_mem_cons, ← ih]
    exact ⟨fun ⟨_, first, rest⟩ => ⟨first, rest⟩, fun ⟨first, rest⟩ => ⟨(), first, rest⟩⟩

/-- Every result on a list is the result on an item of it. -/
theorem exists_of_mem_of_mapM {f : α → Except ε β} {l : List α} {r : List β}
    (h : l.mapM f = .ok r) {b : β} (hb : b ∈ r) : ∃ a ∈ l, f a = .ok b := by
  rw [mapM_eq_ok_iff] at h
  obtain ⟨i, hi, rfl⟩ := List.getElem_of_mem hb
  have hi' : i < l.length := h.length_eq ▸ hi
  exact ⟨l[i], List.getElem_mem hi', h.get hi' hi⟩

/-- Every item of a list has its result. -/
theorem exists_result_of_mapM {f : α → Except ε β} {l : List α} {r : List β}
    (h : l.mapM f = .ok r) {a : α} (ha : a ∈ l) : ∃ b ∈ r, f a = .ok b := by
  rw [mapM_eq_ok_iff] at h
  obtain ⟨i, hi, rfl⟩ := List.getElem_of_mem ha
  have hi' : i < r.length := h.length_eq ▸ hi
  exact ⟨r[i], List.getElem_mem hi', h.get hi hi'⟩

/-- The error of a result, if it is one. -/
def errorOf? : Except ε α → Option ε
  | .error e => some e
  | .ok _ => none

theorem errorOf?_eq_some_iff {x : Except ε α} {e : ε} : errorOf? x = some e ↔ x = .error e := by
  cases x <;> simp [errorOf?]

theorem errorOf?_map (x : Except ε α) (f : α → β) : errorOf? (x.map f) = errorOf? x := by
  cases x <;> rfl

theorem errorOf?_bind (x : Except ε α) (f : α → Except ε β) :
    errorOf? (x >>= f) = match x with
      | .error e => some e
      | .ok a => errorOf? (f a) := by
  cases x <;> rfl

/-- **The error on a list is that on the first item that has one.** -/
theorem errorOf?_mapM (f : α → Except ε β) (l : List α) :
    errorOf? (l.mapM f) = l.findSome? fun a => errorOf? (f a) := by
  induction l with
  | nil => rfl
  | cons a l ih =>
    rw [List.mapM_cons, errorOf?_bind, List.findSome?_cons]
    cases f a with
    | error e => rfl
    | ok b =>
      rw [← ih]
      cases l.mapM f <;> rfl

theorem findSome?_congr {f g : α → Option β} {l : List α} (h : ∀ a ∈ l, f a = g a) :
    l.findSome? f = l.findSome? g := by
  induction l with
  | nil => rfl
  | cons a l ih =>
    rw [List.findSome?_cons, List.findSome?_cons, h a List.mem_cons_self,
      ih fun b hb => h b (List.mem_cons_of_mem _ hb)]

theorem findSome?_flatMap {γ : Type} {f : β → Option γ} {g : α → List β} (l : List α) :
    (l.flatMap g).findSome? f = l.findSome? fun a => (g a).findSome? f := by
  induction l with
  | nil => rfl
  | cons a l ih =>
    rw [List.flatMap_cons, List.findSome?_append, ih, List.findSome?_cons]
    cases (g a).findSome? f <;> rfl

theorem findSome?_filterMap {γ : Type} {f : β → Option γ} {g : α → Option β} (l : List α) :
    (l.filterMap g).findSome? f = l.findSome? fun a => (g a).bind f := by
  induction l with
  | nil => rfl
  | cons a l ih =>
    rw [List.filterMap_cons, List.findSome?_cons, ← ih]
    cases g a <;> rfl

theorem forall₂_exists_iff {γ : Type} {R : α → γ → Prop} {g : γ → β} {l : List α} {r : List β} :
    List.Forall₂ (fun a b => ∃ c, R a c ∧ g c = b) l r ↔
      ∃ cs, List.Forall₂ R l cs ∧ cs.map g = r := by
  constructor
  · intro h
    induction h with
    | nil => exact ⟨[], .nil, rfl⟩
    | cons first _ ih =>
      obtain ⟨c, hc, rfl⟩ := first
      obtain ⟨cs, hcs, rfl⟩ := ih
      exact ⟨c :: cs, .cons hc hcs, rfl⟩
  · rintro ⟨cs, hcs, rfl⟩
    rw [List.forall₂_map_right_iff]
    exact hcs.imp fun a c hc => ⟨c, hc, rfl⟩

theorem mem_of_mem_intercalate {sep : List α} {l : List (List α)} {a : α}
    (h : a ∈ sep.intercalate l) : a ∈ sep ∨ ∃ s ∈ l, a ∈ s := by
  induction l with
  | nil => cases h
  | cons s l ih =>
    cases l with
    | nil =>
      rw [List.intercalate_singleton] at h
      exact Or.inr ⟨s, List.mem_cons_self, h⟩
    | cons s' l =>
      rw [List.intercalate_cons_cons, List.append_assoc, List.mem_append, List.mem_append] at h
      rcases h with h | h | h
      · exact Or.inr ⟨s, List.mem_cons_self, h⟩
      · exact Or.inl h
      · exact (ih h).imp_right fun ⟨r, mem, inside⟩ => ⟨r, List.mem_cons_of_mem _ mem, inside⟩

theorem lookup_eq_none_of_notMem [BEq α] [LawfulBEq α] {l : List (α × β)} {a : α}
    (h : a ∉ l.map (·.1)) : l.lookup a = none := by
  rw [List.lookup_eq_none_iff]
  rintro entry mem
  rw [bne_iff_ne]
  rintro rfl
  exact h (List.mem_map_of_mem mem)

theorem nodup_eraseDups [BEq α] [LawfulBEq α] (l : List α) : l.eraseDups.Nodup := by
  induction n : l.length using Nat.strongRecOn generalizing l with
  | ind n ih =>
    subst n
    cases l with
    | nil => simp
    | cons a l =>
      rw [List.eraseDups_cons, List.nodup_cons, List.mem_eraseDups]
      refine ⟨by simp, ih _ ?_ _ rfl⟩
      exact Nat.lt_succ_of_le (List.length_filter_le _ _)

/-- What is left of a list without its repetitions stands in the order of first occurrence. -/
theorem pairwise_idxOf_eraseDups [BEq α] [LawfulBEq α] (l : List α) :
    l.eraseDups.Pairwise fun a b => l.idxOf a < l.idxOf b := by
  induction l using List.reverseRecOn with
  | nil => exact List.Pairwise.nil
  | append_singleton l x ih =>
    have before : l.eraseDups.Pairwise fun a b => (l ++ [x]).idxOf a < (l ++ [x]).idxOf b := by
      refine ih.imp_of_mem fun {a b} ha hb lt => ?_
      rw [List.idxOf_append_of_mem (List.mem_eraseDups.1 ha),
        List.idxOf_append_of_mem (List.mem_eraseDups.1 hb)]
      exact lt
    rw [List.eraseDups_append]
    refine List.pairwise_append.2 ⟨before, ?_, fun a ha b hb => ?_⟩
    · by_cases known : x ∈ l <;> simp [List.removeAll, known, List.eraseDups_cons]
    · rw [List.mem_eraseDups] at ha hb
      obtain ⟨mem, new⟩ := List.mem_filter.1 hb
      obtain rfl := List.mem_singleton.1 mem
      rw [List.idxOf_append_of_mem ha, List.idxOf_append_of_notMem (by simpa using new)]
      exact Nat.lt_add_right _ (List.idxOf_lt_length_of_mem ha)

theorem eraseDups_of_nodup [BEq α] [LawfulBEq α] {l : List α} (h : l.Nodup) : l.eraseDups = l := by
  induction l with
  | nil => rfl
  | cons a l ih =>
    obtain ⟨once, distinct⟩ := List.nodup_cons.1 h
    have others : (l.filter fun b => !b == a) = l :=
      List.filter_eq_self.2 fun b hb => by simpa using ne_of_mem_of_not_mem hb once
    rw [List.eraseDups_cons, others, ih distinct]

/-! ## Sorted texts -/

theorem pairwise_sort (l : List String) :
    (l.mergeSort fun a b => decide (a ≤ b)).Pairwise (· ≤ ·) := by
  refine List.Pairwise.imp of_decide_eq_true
    (List.pairwise_mergeSort (fun a b c hab hbc => ?_) (fun a b => ?_) l)
  · exact decide_eq_true (String.le_trans (of_decide_eq_true hab) (of_decide_eq_true hbc))
  · simpa using String.le_total a b

/-- Texts without repetitions are sorted strictly. -/
theorem pairwise_sort_of_nodup {l : List String} (h : l.Nodup) :
    (l.mergeSort fun a b => decide (a ≤ b)).Pairwise (· < ·) := by
  refine List.Pairwise.imp₂ ?_ (pairwise_sort l) ((List.mergeSort_perm l _).nodup_iff.2 h)
  exact fun a b le ne => String.not_le.1 fun ge => ne (String.le_antisymm le ge)

/-- Texts in order do not show the order that they were in. -/
theorem sort_eq_of_perm {l l' : List String} (h : l.Perm l') :
    l.mergeSort (fun a b => decide (a ≤ b)) = l'.mergeSort fun a b => decide (a ≤ b) := by
  refine List.Perm.eq_of_pairwise (fun _ _ _ _ => String.le_antisymm) (pairwise_sort l)
    (pairwise_sort l') ?_
  exact ((List.mergeSort_perm _ _).trans h).trans (List.mergeSort_perm _ _).symm

/-! ## Runs -/

section Runs

variable {p : α → Bool} {s rest : List α}

theorem dropWhile_of_head? (h : ∀ c ∈ rest.head?, p c = false) : rest.dropWhile p = rest := by
  cases rest with
  | nil => rfl
  | cons c rest => rw [List.dropWhile_cons, if_neg (by simp [h c rfl])]

theorem takeWhile_of_head? (h : ∀ c ∈ rest.head?, p c = false) : rest.takeWhile p = [] := by
  cases rest with
  | nil => rfl
  | cons c rest => rw [List.takeWhile_cons, if_neg (by simp [h c rfl])]

theorem takeWhile_append_of_head? (hs : ∀ c ∈ s, p c = true) (h : ∀ c ∈ rest.head?, p c = false) :
    (s ++ rest).takeWhile p = s := by
  rw [List.takeWhile_append_of_pos hs, takeWhile_of_head? h, List.append_nil]

theorem dropWhile_append_of_head? (hs : ∀ c ∈ s, p c = true) (h : ∀ c ∈ rest.head?, p c = false) :
    (s ++ rest).dropWhile p = rest := by
  rw [List.dropWhile_append_of_pos hs, dropWhile_of_head? h]

theorem head?_dropWhile (s : List α) : ∀ c ∈ (s.dropWhile p).head?, p c = false := by
  intro c hc
  cases hs : s.dropWhile p with
  | nil =>
    rw [hs] at hc
    cases hc
  | cons d r =>
    have ne : s.dropWhile p ≠ [] := by simp [hs]
    have first := List.head_dropWhile_not p ne
    simp only [hs, List.head_cons] at first
    rw [hs] at hc
    obtain rfl := Option.some.inj hc
    exact first

end Runs

end TagSearch
