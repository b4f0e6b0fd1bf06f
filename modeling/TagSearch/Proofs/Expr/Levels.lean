import Mathlib.Data.List.Shortlex
import Mathlib.Logic.Function.Iterate
import TagSearch.Expr.LevelOrder
import TagSearch.Proofs.Lists

/-!
# Levels of an expression

The walk of an expression lists its nodes level by level and ends when each of them is listed. Which
node is meant, also where equal subexpressions repeat, is said by an address: the numbers of the
children that lead to it from the root. The walk goes through the addresses in the order of their
lengths, and through those of one length from left to right.

* `turn` is one turn of the walk; `iterate_turn` says where the walk is after some turns.
* `visit_append`: what is in front of the queue is listed first, and its children last.
* `levelOrder_eq`: the nodes in level order are those of the levels, one level after the other.
* `Expr.nodeAt?` is the node at an address; `map_nodeAt?_addresses` lists the nodes by addresses.
* `levelTerms_perm`: the terms in level order are those from left to right, in another order.
* `level_order_lists_levels`: all of it for any expression.
-/

namespace TagSearch.Expr

/-! ## Turns of the walk -/

/-- One turn of the walk, on the queue and the nodes listed so far: the first expression of the
queue is listed, and its children are put at the end of the queue. -/
def turn : List Expr × List Expr → List Expr × List Expr
  | ([], listed) => ([], listed)
  | (e :: queue, listed) => (queue ++ e.children, listed ++ [e])

theorem size_pos (e : Expr) : 0 < e.size := by
  cases e <;> simp [size]

theorem totalSize_eq_zero_iff {queue : List Expr} : totalSize queue = 0 ↔ queue = [] := by
  cases queue with
  | nil => simp [totalSize]
  | cons e queue =>
    have := e.size_pos
    simp only [totalSize, reduceCtorEq, iff_false]
    omega

/-- A turn leaves one node less to list. -/
theorem totalSize_turn (s : List Expr × List Expr) :
    totalSize (turn s).1 = totalSize s.1 - 1 := by
  obtain ⟨queue, listed⟩ := s
  cases queue with
  | nil => rfl
  | cons e queue =>
    simp only [turn, totalSize_append, totalSize, size_eq e]
    omega

/-- A turn does not change what is listed in the end. -/
theorem visit_turn (s : List Expr × List Expr) :
    (turn s).2 ++ visit (turn s).1 = s.2 ++ visit s.1 := by
  obtain ⟨queue, listed⟩ := s
  cases queue with
  | nil => rfl
  | cons e queue => simp [turn, visit]

theorem iterate_turn (n : ℕ) (s : List Expr × List Expr) :
    totalSize (turn^[n] s).1 = totalSize s.1 - n ∧
      (turn^[n] s).2 ++ visit (turn^[n] s).1 = s.2 ++ visit s.1 := by
  induction n generalizing s with
  | zero => simp
  | succ n ih =>
    obtain ⟨left, listed⟩ := ih (turn s)
    rw [Function.iterate_succ_apply]
    refine ⟨?_, listed.trans (visit_turn s)⟩
    rw [left, totalSize_turn]
    omega

/-- **The walk ends**: the queue is empty after as many turns as there are nodes, and not before. -/
theorem queue_empty_iff (e : Expr) (n : ℕ) : (turn^[n] ([e], [])).1 = [] ↔ e.size ≤ n := by
  rw [← totalSize_eq_zero_iff, (iterate_turn n _).1]
  simp only [totalSize]
  omega

theorem iterate_turn_size (e : Expr) : turn^[e.size] ([e], []) = ([], e.levelOrder) := by
  have empty := (queue_empty_iff e e.size).2 le_rfl
  have listed := (iterate_turn e.size ([e], [])).2
  rw [empty, visit, List.append_nil] at listed
  exact Prod.ext empty listed

theorem length_visit (queue : List Expr) : (visit queue).length = totalSize queue := by
  fun_induction visit queue with
  | case1 => rfl
  | case2 e queue ih =>
    rw [List.length_cons, ih, totalSize_append, totalSize, size_eq e]
    omega

/-! ## Levels -/

/-- The number of levels. -/
def height : Expr → ℕ
  | .term _ => 1
  | .not e => e.height + 1
  | .and l r => max l.height r.height + 1
  | .or l r => max l.height r.height + 1

theorem height_pos (e : Expr) : 0 < e.height := by
  cases e <;> simp [height]

theorem height_lt_of_mem_children {e c : Expr} (h : c ∈ e.children) : c.height < e.height := by
  cases e <;> simp only [children, List.mem_cons, List.not_mem_nil, or_false] at h
  case not e =>
    subst h
    simp [height]
  all_goals
    simp only [height]
    rcases h with rfl | rfl <;> omega

/-- The levels from the height on are empty, and no level above is. -/
theorem atDepth_eq_nil_iff (k : ℕ) (e : Expr) : atDepth k e = [] ↔ e.height ≤ k := by
  induction k generalizing e with
  | zero =>
    have := e.height_pos
    simp only [atDepth, List.cons_ne_nil, false_iff]
    omega
  | succ k ih =>
    cases e <;> simp [atDepth, children, height, ih]

/-- **What is in front of the queue is listed first.** Its children come behind the rest of the
queue: the queue may hold nodes of two levels. -/
theorem visit_append (front back : List Expr) :
    visit (front ++ back) = front ++ visit (back ++ front.flatMap children) := by
  induction front generalizing back with
  | nil => simp
  | cons e front ih =>
    rw [List.cons_append, visit, List.append_assoc, ih, List.flatMap_cons, List.append_assoc,
      List.cons_append]

/-- A queue of expressions of at most some height is listed by so many levels. -/
theorem visit_eq_levels (n : ℕ) {queue : List Expr} (low : ∀ e ∈ queue, e.height ≤ n) :
    visit queue = (List.range n).flatMap fun k => queue.flatMap (atDepth k) := by
  induction n generalizing queue with
  | zero =>
    have : queue = [] := List.eq_nil_iff_forall_not_mem.2 fun e he => by
      have := low e he
      have := e.height_pos
      omega
    simp [this, visit]
  | succ n ih =>
    have below : ∀ c ∈ queue.flatMap children, c.height ≤ n := by
      intro c hc
      obtain ⟨e, he, hc⟩ := List.mem_flatMap.1 hc
      have := low e he
      have := height_lt_of_mem_children hc
      omega
    have first := visit_append queue []
    rw [List.append_nil, List.nil_append, ih below] at first
    rw [first, List.range_succ_eq_map, List.flatMap_cons, List.flatMap_map]
    congr 1
    · exact (List.flatMap_singleton' queue).symm
    · simp only [List.flatMap_assoc]
      rfl

/-- **The nodes in level order** are those of the levels, one level after the other. -/
theorem levelOrder_eq (e : Expr) :
    e.levelOrder = (List.range e.height).flatMap fun k => atDepth k e := by
  rw [levelOrder, visit_eq_levels e.height (by simp)]
  simp

/-! ## Addresses -/

/-- The node at an address, which numbers the children on the way from the root. -/
def nodeAt? : Expr → List ℕ → Option Expr
  | e, [] => some e
  | e, i :: address => e.children[i]?.bind fun c => c.nodeAt? address

/-- The addresses of a length, from left to right. -/
def addressesAt : ℕ → Expr → List (List ℕ)
  | 0, _ => [[]]
  | k + 1, e => e.children.zipIdx.flatMap fun (c, i) => (addressesAt k c).map (i :: ·)

/-- The addresses of the nodes, by length and from left to right. -/
def addresses (e : Expr) : List (List ℕ) := (List.range e.height).flatMap fun k => addressesAt k e

/-- The addresses of a level lead to its nodes. -/
theorem map_nodeAt?_addressesAt (k : ℕ) (e : Expr) :
    (addressesAt k e).map e.nodeAt? = (atDepth k e).map some := by
  induction k generalizing e with
  | zero => rfl
  | succ k ih =>
    cases e <;> simp [addressesAt, atDepth, children, nodeAt?, Function.comp_def, ← ih]

theorem mem_addressesAt_iff {k : ℕ} {e : Expr} {address : List ℕ} :
    address ∈ addressesAt k e ↔ address.length = k ∧ (e.nodeAt? address).isSome := by
  induction k generalizing e address with
  | zero => cases address <;> simp [addressesAt, nodeAt?]
  | succ k ih =>
    cases address with
    | nil => simp [addressesAt]
    | cons i address =>
      simp only [addressesAt, List.mem_flatMap, List.mem_map, List.cons.injEq, Prod.exists,
        List.mem_zipIdx_iff_getElem?, nodeAt?, List.length_cons, Nat.add_right_cancel_iff]
      constructor
      · rintro ⟨c, i, child, _, mem, rfl, rfl⟩
        rw [child]
        exact ih.1 mem
      · rintro ⟨length, found⟩
        cases child : e.children[i]? with
        | none => simp [child] at found
        | some c =>
          rw [child] at found
          exact ⟨c, i, child, address, ih.2 ⟨length, found⟩, rfl, rfl⟩

/-- The addresses of a level are in order. -/
theorem pairwise_addressesAt (k : ℕ) (e : Expr) :
    (addressesAt k e).Pairwise (List.Lex (· < ·)) := by
  induction k generalizing e with
  | zero => simp [addressesAt]
  | succ k ih =>
    have below (i : ℕ) (c : Expr) :
        ((addressesAt k c).map (i :: ·)).Pairwise (List.Lex (· < ·)) :=
      List.pairwise_map.2 ((ih c).imp List.Lex.cons)
    have across (l r : Expr) : ∀ a ∈ (addressesAt k l).map (0 :: ·),
        ∀ b ∈ (addressesAt k r).map (1 :: ·), List.Lex (· < ·) a b := by
      intro a ha b hb
      obtain ⟨a, _, rfl⟩ := List.mem_map.1 ha
      obtain ⟨b, _, rfl⟩ := List.mem_map.1 hb
      exact .rel Nat.zero_lt_one
    cases e with
    | term t => exact .nil
    | not e => simpa [addressesAt, children] using below 0 e
    | and l r | or l r =>
      simpa [addressesAt, children] using
        List.pairwise_append.2 ⟨below 0 l, below 1 r, across l r⟩

theorem nodeAt?_isSome_of_lt {e : Expr} {address : List ℕ} (h : (e.nodeAt? address).isSome) :
    address.length < e.height := by
  have mem := mem_addressesAt_iff.2 ⟨rfl, h⟩
  by_contra high
  have none := map_nodeAt?_addressesAt address.length e
  rw [(atDepth_eq_nil_iff _ e).2 (not_lt.1 high), List.map_nil, List.map_eq_nil_iff] at none
  rw [none] at mem
  cases mem

/-- The addresses are those at which there are nodes. -/
theorem mem_addresses_iff {e : Expr} {address : List ℕ} :
    address ∈ e.addresses ↔ (e.nodeAt? address).isSome := by
  simp only [addresses, List.mem_flatMap, List.mem_range, mem_addressesAt_iff]
  constructor
  · rintro ⟨k, _, rfl, found⟩
    exact found
  · intro found
    exact ⟨address.length, nodeAt?_isSome_of_lt found, rfl, found⟩

/-- The addresses are in the order of their lengths, and those of one length in order. -/
theorem pairwise_addresses (e : Expr) : e.addresses.Pairwise (List.Shortlex (· < ·)) := by
  refine List.pairwise_flatMap.2 ⟨fun k _ => ?_, ?_⟩
  · refine (pairwise_addressesAt k e).imp_of_mem fun {a b} ha hb lex => ?_
    have ha := (mem_addressesAt_iff.1 ha).1
    have hb := (mem_addressesAt_iff.1 hb).1
    exact .of_lex (ha.trans hb.symm) lex
  · refine List.pairwise_lt_range.imp fun {i j} lt a ha b hb => ?_
    have ha := (mem_addressesAt_iff.1 ha).1
    have hb := (mem_addressesAt_iff.1 hb).1
    exact .of_length_lt (by omega)

/-- **The walk goes through the addresses.** -/
theorem map_nodeAt?_addresses (e : Expr) : e.addresses.map e.nodeAt? = e.levelOrder.map some := by
  rw [addresses, levelOrder_eq, List.map_flatMap, List.map_flatMap]
  simp only [map_nodeAt?_addressesAt]

/-! ## Terms -/

/-- The term of a leaf. -/
def term? : Expr → Option Term
  | .term t => some t
  | _ => none

theorem terms_eq (e : Expr) : e.terms = e.term?.toList ++ e.children.flatMap terms := by
  cases e <;> simp [terms, term?, children]

theorem filterMap_term?_visit_perm (queue : List Expr) :
    ((visit queue).filterMap term?).Perm (queue.flatMap terms) := by
  fun_induction visit queue with
  | case1 => exact .nil
  | case2 e queue ih =>
    rw [List.flatMap_append] at ih
    rw [List.flatMap_cons, terms_eq e, List.filterMap_cons, List.append_assoc]
    have rest := ih.trans List.perm_append_comm
    cases e.term? with
    | none => exact rest
    | some t => exact rest.cons t

theorem levelTerms_eq (e : Expr) : e.levelTerms = e.levelOrder.filterMap term? := by
  refine List.filterMap_congr fun x _ => ?_
  cases x <;> rfl

/-- **The terms in level order** are those from left to right, in another order. -/
theorem levelTerms_perm (e : Expr) : e.levelTerms.Perm e.terms := by
  rw [levelTerms_eq, levelOrder]
  simpa using filterMap_term?_visit_perm [e]

theorem mem_tagNames_iff {e : Expr} {name : String} :
    name ∈ e.tagNames ↔ Term.tag name ∈ e.terms := by
  rw [tagNames, List.mem_eraseDups, List.mem_filterMap, ← e.levelTerms_perm.mem_iff]
  constructor
  · rintro ⟨t, mem, named⟩
    cases t with
    | tag name' =>
      obtain rfl := Option.some.inj named
      exact mem
    | inPath pattern => cases named
  · intro mem
    exact ⟨_, mem, rfl⟩

theorem hasPathTerm_iff {e : Expr} :
    e.hasPathTerm = true ↔ ∃ pattern, Term.inPath pattern ∈ e.terms := by
  rw [hasPathTerm, List.any_eq_true]
  simp only [e.levelTerms_perm.mem_iff]
  constructor
  · rintro ⟨t, mem, isPattern⟩
    cases t with
    | tag name => cases isPattern
    | inPath pattern => exact ⟨pattern, mem⟩
  · rintro ⟨pattern, mem⟩
    exact ⟨_, mem, rfl⟩

/-! ## Level order -/

/-- **The walk lists the levels and loses nothing.** It ends after as many turns as there are nodes,
not earlier, and has then listed the levels one after the other, until the first one that is empty.
Every address of a node is gone to once, in the order of lengths and from left to right. The terms
are those of the expression in another order; the tag names are the names of the tags among them,
each once; and a path pattern is reported if there is one. -/
theorem level_order_lists_levels (e : Expr) :
    ((∀ n, (turn^[n] ([e], [])).1 = [] ↔ e.size ≤ n) ∧
      turn^[e.size] ([e], []) = ([], e.levelOrder)) ∧
    ((∀ k, atDepth k e = [] ↔ e.height ≤ k) ∧
      e.levelOrder = (List.range e.height).flatMap fun k => atDepth k e) ∧
    e.levelOrder.length = e.size ∧
    (∃ addresses : List (List ℕ), addresses.Pairwise (List.Shortlex (· < ·)) ∧
      (∀ address, address ∈ addresses ↔ (e.nodeAt? address).isSome) ∧
      e.levelOrder.map some = addresses.map e.nodeAt?) ∧
    e.levelTerms.Perm e.terms ∧
    (e.tagNames.Nodup ∧ ∀ name, name ∈ e.tagNames ↔ Term.tag name ∈ e.terms) ∧
    (e.hasPathTerm = true ↔ ∃ pattern, Term.inPath pattern ∈ e.terms) := by
  refine ⟨⟨queue_empty_iff e, iterate_turn_size e⟩, ⟨fun k => atDepth_eq_nil_iff k e,
    levelOrder_eq e⟩, ?_, ?_, levelTerms_perm e, ⟨nodup_eraseDups _, fun _ => mem_tagNames_iff⟩,
    hasPathTerm_iff⟩
  · rw [levelOrder, length_visit]
    simp [totalSize]
  · exact ⟨e.addresses, pairwise_addresses e, fun _ => mem_addresses_iff,
      (map_nodeAt?_addresses e).symm⟩

/-- A subexpression that repeats is listed once for each of its places. -/
example (a : Term) :
    levelOrder (.or (.not (.term a)) (.term a)) =
      [.or (.not (.term a)) (.term a), .not (.term a), .term a, .term a] := by
  cbv

end TagSearch.Expr
