import TagSearch.Catalog.Search
import TagSearch.Proofs.Catalog.Paths
import TagSearch.Proofs.Like
import TagSearch.Proofs.Predicate.Reading

/-!
# Searches mean what expressions say

A search goes through the token table and the patterns of paths. In tables that are consistent and
whose token table mirrors the tags, as they are after every run of routine actions, what it finds is
what the expression says of the tags and the path of a file.

* `Catalog.Accepted` is what an expression says of a recorded file.
* `Catalog.mem_select_iff`: the files that are selected are those that the expression accepts.
* `Catalog.paths_pick_pairwise`: they come in increasing order of their paths, each once.
* `Catalog.selectWhere?_render`: the printed text of an expression selects the same files.
* `takeLimit_eq`: a limit keeps the first files.
* `Session.search_run`: all of it, after every run.
-/

namespace TagSearch

/-- The files that a limit leaves: a negative limit leaves all of them. -/
def firstOf {α : Type} (limit : Option Int) (items : List α) : List α :=
  match limit with
  | some n => if 0 ≤ n then items.take n.toNat else items
  | none => items

/-- A limit of at least one leaves something if there is anything. -/
theorem firstOf_eq_nil_iff {α : Type} {limit : Option Int} (positive : ∀ n ∈ limit, 1 ≤ n)
    {items : List α} : firstOf limit items = [] ↔ items = [] := by
  cases limit with
  | none => rfl
  | some n =>
    have one : 1 ≤ n := positive n rfl
    rw [firstOf, if_pos (by omega), List.take_eq_nil_iff]
    exact or_iff_right (by omega)

/-- A limit that fits into a signed number of 64 bits only cuts. -/
theorem takeLimit_eq {α : Type} {limit : Option Int}
    (h : ∀ n, limit = some n → -limitBound ≤ n ∧ n < limitBound) (items : List α) :
    takeLimit limit items = .ok (firstOf limit items) := by
  cases limit with
  | none => rfl
  | some n =>
    obtain ⟨low, high⟩ := h n rfl
    rw [takeLimit, firstOf, if_neg (by omega)]
    by_cases negative : n < 0
    · rw [if_pos negative, if_neg (by omega)]
    · rw [if_neg negative, if_pos (by omega)]

namespace Catalog

variable {c : Catalog}

/-! ## What is picked -/

theorem pick_perm (c : Catalog) (test : FileRecord → Bool) :
    (c.pick test).Perm (c.files.filter test) := List.mergeSort_perm _ _

theorem mem_pick {test : FileRecord → Bool} {f : FileRecord} :
    f ∈ c.pick test ↔ f ∈ c.files ∧ test f = true := by
  rw [(c.pick_perm test).mem_iff, List.mem_filter]

/-- The paths of the files picked are the paths of those that pass the test, in order. -/
theorem map_path_pick (c : Catalog) (test : FileRecord → Bool) :
    (c.pick test).map (·.path) =
      ((c.files.filter test).map (·.path)).mergeSort fun a b => decide (a ≤ b) :=
  List.map_mergeSort fun _ _ _ _ => rfl

/-- **The files picked come in increasing order of their paths**, and no path comes twice. -/
theorem paths_pick_pairwise (h : c.Consistent) (test : FileRecord → Bool) :
    (c.pick test).Pairwise fun f g => f.path < g.path := by
  have distinct : ((c.files.filter test).map (·.path)).Nodup :=
    h.paths_distinct.sublist (List.filter_sublist.map _)
  refine List.pairwise_map.1 ?_
  rw [map_path_pick]
  exact pairwise_sort_of_nodup distinct

/-- In any tables, the files selected come in the order of their paths. -/
theorem paths_select_pairwise (c : Catalog) (p : Predicate) :
    ((c.select p).map (·.path)).Pairwise (· ≤ ·) := by
  rw [select, map_path_pick]
  exact pairwise_sort _

/-! ## What an expression finds -/

/-- What an expression says of a recorded file by its tags and its path, with patterns and path as
they are read in comparisons. -/
def Accepted (c : Catalog) (m : PathMatch) (e : Expr) (f : FileRecord) : Prop :=
  e.Holds fun t =>
    t.readable.Accepts m (fun name => (f.id, name) ∈ c.tags) (readableText f.path)

/-- In tables that agree, the tables say of a term what the tags and the path say. -/
theorem found_iff (consistent : c.Consistent) (mirrored : c.Mirrored) {m : PathMatch}
    {f : FileRecord} (path : NulFree f.path) {t : Term} (text : NulFree t.text) :
    t.Found m c f ↔
      t.readable.Accepts m (fun name => (f.id, name) ∈ c.tags) (readableText f.path) := by
  cases t with
  | tag name => exact hasToken_iff consistent mirrored
  | inPath s => exact Like.acceptsPath_pattern_iff m text path

/-- **The files that are selected are those that the expression accepts.** -/
theorem mem_select_iff (consistent : c.Consistent) (mirrored : c.Mirrored)
    (paths : c.AllPaths NulFree) {m : PathMatch} {e : Expr} (texts : ∀ t ∈ e.terms, NulFree t.text)
    {f : FileRecord} : f ∈ c.select (.ofExpr m e) ↔ f ∈ c.files ∧ c.Accepted m e f := by
  rw [select, mem_pick, Predicate.holds_ofExpr_iff]
  refine and_congr_right fun hf => Expr.holds_congr fun t ht => ?_
  exact found_iff consistent mirrored (paths f hf) (texts t ht)

/-- **The printed text of an expression selects what the expression does**, in any tables. -/
theorem selectWhere?_render (c : Catalog) (m : PathMatch) (e : Expr) :
    c.selectWhere? (Predicate.ofExpr m e).render = some (c.select (.ofExpr m e)) := by
  obtain ⟨q, read, same⟩ := (Predicate.ofExpr m e).ofText?_render
  rw [selectWhere?, read, Option.map_some, select]
  congr 2
  funext f
  exact same c f

end Catalog

namespace Session

/-- **Searches mean what expressions say.** After any run of routine actions, a search finds the
recorded files that the expression accepts, each once and in increasing order of their paths, and
cuts them to the limit. -/
theorem search_run {actions : List IndexAction}
    (routine : ∀ a ∈ actions, a.isRoutine = true)
    (paths : ∀ a ∈ actions, ∀ p ∈ a.paths, NulFree p)
    {e : Expr} (texts : ∀ t ∈ e.terms, NulFree t.text) (m : PathMatch)
    {limit : Option Int} (small : ∀ n, limit = some n → -limitBound ≤ n ∧ n < limitBound) :
    ∃ all : List FileRecord,
      (∀ f, f ∈ all ↔ f ∈ (fresh.run actions).catalog.files ∧
        (fresh.run actions).catalog.Accepted m e f) ∧
      all.Pairwise (fun f g => f.path < g.path) ∧
      (fresh.run actions).catalog.search e m limit = .ok (firstOf limit all) := by
  have consistent := (consistent_run actions).1
  have mirrored := (mirrored_run routine).1
  refine ⟨_, fun f => ?_, Catalog.paths_pick_pairwise consistent _, takeLimit_eq small _⟩
  exact Catalog.mem_select_iff consistent mirrored (nulFree_run paths).1 texts

theorem search_run_one_of_two :
    let actions : List IndexAction :=
      [.build "root" ["a", "b"] false, .addTags ["b", "a"] ["x"], .reopen]
    let e : Expr := .and (.term (.tag "x")) (.not (.term (.inPath "A")))
    (∀ a ∈ actions, a.isRoutine = true) ∧ (∀ a ∈ actions, ∀ p ∈ a.paths, NulFree p) ∧
    (∀ t ∈ e.terms, NulFree t.text) ∧ (-limitBound ≤ 5 ∧ 5 < limitBound) ∧
    ∃ all : List FileRecord,
      (∀ f, f ∈ all ↔ f ∈ (fresh.run actions).catalog.files ∧
        (fresh.run actions).catalog.Accepted .whole e f) ∧
      all.Pairwise (fun f g => f.path < g.path) ∧
      (fresh.run actions).catalog.search e .whole (some 5) = .ok (firstOf (some 5) all) := by
  refine ⟨by decide, by decide, by decide, by decide, ?_⟩
  refine search_run (by decide) (by decide) (by decide) .whole fun n h => ?_
  cases h
  decide

/-- Not every limit below 2^63 is accepted, and comparisons do not tell all texts apart: a path that
ends in U+FFFF is found by a pattern that ends in U+FFFE. -/
theorem search_unlike_plain_reading :
    let c := (fresh.run [.build "root" ["n\uFFFF"] false]).catalog
    let e : Expr := .term (.inPath "n\uFFFE")
    c.search e .whole none = .ok [⟨1, "n\uFFFF", true⟩] ∧
    ¬ e.Accepts .whole (fun name => (1, name) ∈ c.tags) "n\uFFFF" ∧
    c.search e .whole (some (-limitBound - 1)) = .error .limitTooLarge := by
  refine ⟨by cbv, ?_, by cbv⟩
  show ¬ foldCase "n\uFFFF" = foldCase "n\uFFFE"
  decide

end Session

end TagSearch
