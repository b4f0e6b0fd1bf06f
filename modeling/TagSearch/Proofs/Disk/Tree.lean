import Mathlib.Data.List.Basic
import TagSearch.Disk.Edit
import TagSearch.Disk.Scan

/-!
# Places on a disk

What a change of a disk does to the places on it, and which places a walk lists. Only the kind of
what is at a place matters: nothing, a directory, or something else.

* `Node.kind?_put`, `kind?_erase` and `get?_put`: a change at a place leaves the kinds elsewhere.
* `Node.kind?_move`, `kind?_of_move` and `not_below_of_move`: what a move does, and what it needs.
* `Node.mem_descendants_iff` and `Node.mem_scan_iff`: the places that are walked and listed.
-/

namespace TagSearch.Node

variable {α : Type} {n n' new : Node α} {p q r : Place} {b : Bool}

/-- Whether there is a directory at a place, if there is anything. -/
def kind? (n : Node α) (place : Place) : Option Bool := (n.get? place).map isDir

/-! ## Looking places up -/

theorem get?_nil (n : Node α) : n.get? [] = some n := by rw [get?]

theorem get?_append (n : Node α) (p q : Place) :
    n.get? (p ++ q) = (n.get? p).bind fun m => m.get? q := by
  induction p generalizing n with
  | nil => rw [List.nil_append, get?_nil, Option.bind_some]
  | cons k p ih =>
    cases n with
    | dir es =>
      rw [List.cons_append, get?, get?]
      cases es.lookup k with
      | none => rfl
      | some m => exact ih m
    | file | link => rfl

theorem kind?_append (n : Node α) (p q : Place) :
    n.kind? (p ++ q) = (n.get? p).bind fun m => m.kind? q := by
  rw [kind?, get?_append, Option.map_bind]
  rfl

theorem kind?_nil (n : Node α) : n.kind? [] = some n.isDir := by
  rw [kind?, get?_nil, Option.map_some]

theorem kind?_of_get? {m : Node α} (h : n.get? p = some m) (q : Place) :
    n.kind? (p ++ q) = m.kind? q := by
  rw [kind?_append, h, Option.bind_some]

theorem kind?_eq_none_iff : n.kind? p = none ↔ n.get? p = none := Option.map_eq_none_iff

theorem exists_of_isDir (h : n.kind? p = some true) : ∃ es, n.get? p = some (.dir es) := by
  obtain ⟨m, found, dir⟩ := Option.map_eq_some_iff.1 h
  cases m with
  | dir es => exact ⟨es, found⟩
  | file | link => cases dir

/-- Nothing is below what is no directory. -/
theorem kind?_below (h : n.kind? p ≠ some true) (hq : q ≠ []) : n.kind? (p ++ q) = none := by
  rw [kind?_append]
  cases found : n.get? p with
  | none => rfl
  | some m =>
    rw [kind?, found] at h
    obtain ⟨k, q, rfl⟩ := List.exists_cons_of_ne_nil hq
    cases m with
    | dir es => exact (h rfl).elim
    | file | link => rfl

/-- Nothing is below nothing. -/
theorem kind?_below_none (h : n.kind? p = none) (q : Place) : n.kind? (p ++ q) = none := by
  rw [kind?_append, kind?_eq_none_iff.1 h, Option.bind_none]

/-- Everything that is on the way to something is a directory. -/
theorem kind?_of_below (h : n.kind? (p ++ q) = some b) (hq : q ≠ []) : n.kind? p = some true := by
  by_contra other
  rw [kind?_below other hq] at h
  cases h

/-! ## Entries -/

theorem lookup_cons (e : String × Node α) (es : List (String × Node α)) (k : String) :
    (e :: es).lookup k = if k = e.1 then some e.2 else es.lookup k := by
  rw [List.lookup_cons]
  by_cases same : k = e.1
  · rw [beq_iff_eq.2 same, if_pos same]
  · rw [beq_false_of_ne same, if_neg same]

theorem lookup_setEntry (k : String) (m : Node α) (es : List (String × Node α)) (k' : String) :
    (setEntry k m es).lookup k' = if k' = k then some m else es.lookup k' := by
  induction es with
  | nil => rw [setEntry, lookup_cons]
  | cons e es ih =>
    rw [setEntry]
    by_cases here : e.1 = k
    · rw [if_pos here, lookup_cons, lookup_cons, here]
      by_cases same : k' = k <;> simp [same]
    · rw [if_neg here, lookup_cons, lookup_cons, ih]
      by_cases same : k' = k
      · rw [same, if_neg (Ne.symm here), if_pos rfl, if_pos rfl]
      · rw [if_neg same, if_neg same]

theorem lookup_filter_ne (k : String) (es : List (String × Node α)) (k' : String) :
    (es.filter (·.1 != k)).lookup k' = if k' = k then none else es.lookup k' := by
  induction es with
  | nil => simp
  | cons e es ih =>
    rw [List.filter_cons]
    by_cases here : e.1 = k
    · rw [if_neg (by simpa using here), ih, lookup_cons, here]
      by_cases same : k' = k <;> simp [same]
    · rw [if_pos (by simpa using here), lookup_cons, lookup_cons, ih]
      by_cases same : k' = k
      · rw [same, if_neg (Ne.symm here), if_pos rfl, if_pos rfl]
      · rw [if_neg same, if_neg same]

/-! ## Putting -/

theorem get?_put (h : n.put p new = some n') (q : Place) : n'.get? (p ++ q) = new.get? q := by
  fun_induction put n p new generalizing n' with
  | case1 => cases h; rfl
  | case2 es k new =>
    cases h
    show get? (.dir _) (k :: q) = _
    rw [get?, lookup_setEntry, if_pos rfl, Option.bind_some]
  | case3 es k k' rest new ih =>
    obtain ⟨m, found, h⟩ := Option.bind_eq_some_iff.1 h
    obtain ⟨m', put, h⟩ := Option.bind_eq_some_iff.1 h
    cases h
    rw [List.cons_append, get?, lookup_setEntry, if_pos rfl, Option.bind_some]
    exact ih m put
  | case4 => cases h

/-- What was put is there. -/
theorem get?_put_self (h : n.put p new = some n') : n'.get? p = some new := by
  rw [← List.append_nil p, get?_put h, get?_nil]

/-- Something is put into a directory. -/
theorem isDir_of_put (h : n.put p new = some n') (before : r <+: p) (apart : r ≠ p) :
    n.kind? r = some true := by
  obtain ⟨q, rfl⟩ := before
  have hq : q ≠ [] := fun e => apart (by rw [e, List.append_nil])
  clear apart
  induction r generalizing n n' with
  | nil =>
    obtain ⟨k, q, rfl⟩ := List.exists_cons_of_ne_nil hq
    rw [List.nil_append] at h
    cases n with
    | dir es => rfl
    | file | link => cases q <;> cases h
  | cons k r ih =>
    obtain ⟨k', q', e⟩ := List.exists_cons_of_ne_nil (List.append_ne_nil_of_right_ne_nil r hq)
    rw [List.cons_append, e] at h
    cases n with
    | dir es =>
      rw [put, ← e] at h
      obtain ⟨m, found, h⟩ := Option.bind_eq_some_iff.1 h
      obtain ⟨m', put, _⟩ := Option.bind_eq_some_iff.1 h
      rw [← ih put, kind?, kind?, get?, found, Option.bind_some]
    | file | link => cases h

/-- What is put at a place leaves the kinds elsewhere. -/
theorem kind?_put (h : n.put p new = some n') (apart : ¬ p <+: r) : n'.kind? r = n.kind? r := by
  fun_induction put n p new generalizing n' r with
  | case1 => exact (apart List.nil_prefix).elim
  | case2 es k new =>
    cases h
    cases r with
    | nil => rfl
    | cons k' r =>
      have other : k' ≠ k := fun e => apart (e ▸ List.prefix_append [k'] r)
      rw [kind?, kind?, get?, get?, lookup_setEntry, if_neg other]
  | case3 es k k' rest new ih =>
    obtain ⟨m, found, h⟩ := Option.bind_eq_some_iff.1 h
    obtain ⟨m', put, h⟩ := Option.bind_eq_some_iff.1 h
    cases h
    cases r with
    | nil => rfl
    | cons k'' r =>
      rw [kind?, kind?, get?, get?, lookup_setEntry]
      by_cases same : k'' = k
      · subst same
        rw [if_pos rfl, found, Option.bind_some, Option.bind_some]
        exact ih m put fun below => apart (List.cons_prefix_cons.2 ⟨rfl, below⟩)
      · rw [if_neg same]
  | case4 => cases h

/-! ## Erasing -/

theorem get?_erase (hp : p ≠ []) (q : Place) : (n.erase p).get? (p ++ q) = none := by
  fun_induction erase n p with
  | case1 => exact (hp rfl).elim
  | case2 es k =>
    show get? (.dir _) (k :: q) = _
    rw [get?, lookup_filter_ne, if_pos rfl, Option.bind_none]
  | case3 es k k' rest m found ih =>
    rw [List.cons_append, get?, lookup_setEntry, if_pos rfl, Option.bind_some]
    exact ih (List.cons_ne_nil _ _)
  | case4 es k k' rest missing =>
    rw [List.cons_append, get?, missing, Option.bind_none]
  | case5 m k rest single other =>
    cases m with
    | dir es =>
      cases rest with
      | nil => exact (single es rfl rfl).elim
      | cons k' rest => exact (other es k' rest rfl rfl).elim
    | file | link => rfl

theorem get?_erase_self (hp : p ≠ []) : (n.erase p).get? p = none := by
  simpa using get?_erase (n := n) hp []

/-- Erasing a place leaves the kinds elsewhere. -/
theorem kind?_erase (apart : ¬ p <+: r) : (n.erase p).kind? r = n.kind? r := by
  fun_induction erase n p generalizing r with
  | case1 => rfl
  | case2 es k =>
    cases r with
    | nil => rfl
    | cons k' r =>
      have other : k' ≠ k := fun e => apart (e ▸ List.prefix_append [k'] r)
      rw [kind?, kind?, get?, get?, lookup_filter_ne, if_neg other]
  | case3 es k k' rest m found ih =>
    cases r with
    | nil => rfl
    | cons k'' r =>
      rw [kind?, kind?, get?, get?, lookup_setEntry]
      by_cases same : k'' = k
      · subst same
        rw [if_pos rfl, found, Option.bind_some, Option.bind_some]
        exact ih fun below => apart (List.cons_prefix_cons.2 ⟨rfl, below⟩)
      · rw [if_neg same]
  | case4 | case5 => rfl

/-! ## Moving -/

/-- A move that is not refused: what stands at the new place is an empty directory if a directory is
moved, and no directory if something else is. -/
theorem of_move_eq_ok {old place : Place} (h : n.move old place = .ok n') (apart : old ≠ place) :
    ∃ m, n.get? old = some m ∧ (n.erase old).put place m = some n' ∧
      ∀ k, n.get? place = some k → k.isDir = m.isDir ∧ (k = .dir [] ∨ k.isDir = false) := by
  rw [move] at h
  cases found : n.get? old with
  | none =>
    rw [found] at h
    cases h
  | some m =>
    cases put : (n.erase old).put place m with
    | none =>
      simp only [found, put, if_neg apart] at h
      repeat' split at h
      all_goals cases h
    | some placed =>
      simp only [found, put, if_neg apart] at h
      split at h
      · cases h
      · split at h
        · rename_i es there
          split at h
          · cases h
          · rename_i dir
            split at h
            · cases h
            · rename_i empty
              refine ⟨m, rfl, by cases h; exact put, fun k hk => ?_⟩
              obtain rfl := Option.some.inj (there.symm.trans hk)
              simp only [Bool.not_eq_true', Bool.not_eq_false, List.isEmpty_iff] at dir empty
              exact ⟨dir.symm, Or.inl (empty ▸ rfl)⟩
        · rename_i k file there
          split at h
          · cases h
          · rename_i file'
            refine ⟨m, rfl, by cases h; exact put, fun k' hk => ?_⟩
            obtain rfl := Option.some.inj (there.symm.trans hk)
            cases k with
            | dir es => exact (file es rfl).elim
            | file | link => exact ⟨(Bool.eq_false_iff.2 file').symm, Or.inr rfl⟩
        · rename_i there
          refine ⟨m, rfl, by cases h; exact put, fun k hk => ?_⟩
          rw [there] at hk
          cases hk

section

variable {old place : Place} (h : n.move old place = .ok n') (apart : old ≠ place) (hold : old ≠ [])

include h apart

/-- Nothing is below the place that something is moved to. -/
theorem kind?_below_of_move (hq : q ≠ []) : n.kind? (place ++ q) = none := by
  obtain ⟨m, _, _, replaced⟩ := of_move_eq_ok h apart
  cases there : n.get? place with
  | none => exact kind?_below_none (kind?_eq_none_iff.2 there) q
  | some k =>
    rw [kind?_of_get? there]
    obtain ⟨_, rfl | file⟩ := replaced k there
    · obtain ⟨name, q, rfl⟩ := List.exists_cons_of_ne_nil hq
      rfl
    · refine kind?_below (p := []) ?_ hq
      rw [kind?_nil, file]
      decide

/-- What stands at the place that something is moved to is of the same sort. -/
theorem kind?_of_move (there : n.kind? place = some b) : n.kind? old = some b := by
  obtain ⟨m, found, _, replaced⟩ := of_move_eq_ok h apart
  obtain ⟨k, found', sort⟩ := Option.map_eq_some_iff.1 there
  rw [kind?, found, Option.map_some, ← (replaced k found').1, sort]

/-- Nothing is moved to a place above it. -/
theorem not_above_of_move : ¬ place <+: old := by
  rintro ⟨q, above⟩
  obtain ⟨m, found, _⟩ := of_move_eq_ok h apart
  have hq : q ≠ [] := by
    rintro rfl
    exact apart (by rw [← above, List.append_nil])
  have there := kind?_below_of_move h apart hq
  rw [above, kind?, found] at there
  cases there

include hold

/-- Nothing is moved to a place below it. -/
theorem not_below_of_move : ¬ old <+: place := by
  intro below
  obtain ⟨m, _, put, _⟩ := of_move_eq_ok h apart
  have gone := get?_erase (n := n) hold []
  have dir := isDir_of_put put below apart
  rw [List.append_nil] at gone
  rw [kind?, gone] at dir
  cases dir

/-- **A move** takes what is at one place and below it to another place. -/
theorem kind?_move :
    (∀ q, n'.kind? (place ++ q) = n.kind? (old ++ q)) ∧
    (∀ q, n'.kind? (old ++ q) = none) ∧
    ∀ r, ¬ old <+: r → ¬ place <+: r → n'.kind? r = n.kind? r := by
  obtain ⟨m, found, put, _⟩ := of_move_eq_ok h apart
  refine ⟨fun q => ?_, fun q => ?_, fun r elsewhere elsewhere' => ?_⟩
  · rw [kind?_of_get? found, kind?, get?_put put]
    rfl
  · have elsewhere : ¬ place <+: old ++ q := fun below =>
      (List.prefix_or_prefix_of_prefix below (List.prefix_append old q)).elim
        (not_above_of_move h apart) (not_below_of_move h apart hold)
    rw [kind?_put put elsewhere, kind?, get?_erase hold]
    rfl
  · rw [kind?_put put elsewhere', kind?_erase elsewhere]

end

/-! ## Walks -/

/-- What is found on a proper disk is proper. -/
theorem Proper.of_get? (h : n.Proper) {m : Node α} (found : n.get? p = some m) : m.Proper := by
  intro place es there
  exact h (p ++ place) es (by rw [get?_append, found, Option.bind_some, there])

theorem lookup_eq_some_iff {es : List (String × Node α)} (distinct : (es.map (·.1)).Nodup)
    {k : String} {m : Node α} : es.lookup k = some m ↔ (k, m) ∈ es := by
  induction es with
  | nil => simp
  | cons e es ih =>
    obtain ⟨fresh, distinct⟩ := List.nodup_cons.1 distinct
    rw [lookup_cons, List.mem_cons]
    by_cases here : k = e.1
    · rw [if_pos here, Option.some_inj]
      constructor
      · rintro rfl
        exact Or.inl (Prod.ext here rfl)
      · rintro (rfl | mem)
        · rfl
        · exact (fresh (List.mem_map.2 ⟨_, mem, here⟩)).elim
    · rw [if_neg here, ih distinct]
      refine (or_iff_right ?_).symm
      rintro rfl
      exact here rfl

@[simp]
theorem proper_file (content : α) : (file content).Proper := by
  intro place es found
  cases place <;> cases found

@[simp]
theorem proper_link (target : String) : (Node.link target : Node α).Proper := by
  intro place es found
  cases place <;> cases found

theorem proper_dir_iff {es : List (String × Node α)} :
    (dir es).Proper ↔
      (es.map (·.1)).Nodup ∧ (∀ e ∈ es, IsName e.1) ∧ ∀ e ∈ es, e.2.Proper := by
  constructor
  · intro h
    obtain ⟨distinct, names⟩ := h [] es (get?_nil _)
    refine ⟨distinct, names, fun e he => h.of_get? (p := [e.1]) ?_⟩
    rw [get?, (lookup_eq_some_iff distinct).2 he, Option.bind_some, get?_nil]
  · rintro ⟨distinct, names, below⟩ place es' found
    cases place with
    | nil =>
      rw [get?_nil] at found
      cases found
      exact ⟨distinct, names⟩
    | cons k place =>
      obtain ⟨m, there, found⟩ := Option.bind_eq_some_iff.1 found
      exact below _ ((lookup_eq_some_iff distinct).1 there) place es' found

/-- The names on the way to something can be names. -/
theorem Proper.isName (h : n.Proper) (there : n.kind? p = some b) : ∀ name ∈ p, IsName name := by
  induction p generalizing n with
  | nil => exact List.forall_mem_nil _
  | cons k p ih =>
    cases n with
    | dir es =>
      obtain ⟨distinct, names⟩ := h [] es (get?_nil _)
      cases found : es.lookup k with
      | none =>
        rw [kind?, get?, found] at there
        cases there
      | some m =>
        have next : (dir es).get? [k] = some m := by
          rw [get?, found, Option.bind_some, get?_nil]
        rw [← List.singleton_append, kind?_of_get? next] at there
        exact List.forall_mem_cons.2
          ⟨names _ ((lookup_eq_some_iff distinct).1 found), ih (h.of_get? next) there⟩
    | file | link => cases there

theorem mem_subdirs {here : Place} {es : List (String × Node α)}
    {d : Place × List (String × Node α)} :
    d ∈ subdirs here es ↔ ∃ k, (k, dir d.2) ∈ es ∧ d.1 = here ++ [k] := by
  rw [subdirs, List.mem_filterMap]
  constructor
  · rintro ⟨⟨k, m⟩, mem, sub⟩
    cases m with
    | dir es' =>
      cases sub
      exact ⟨k, mem, rfl⟩
    | file | link => cases sub
  · rintro ⟨k, mem, place⟩
    exact ⟨(k, dir d.2), mem, congrArg some (Prod.ext place.symm rfl)⟩

/-- What a walk lists is below one of the directories that it starts with. -/
theorem mem_walk_iff {todo : List (Place × List (String × Node α))}
    (proper : ∀ d ∈ todo, (dir d.2).Proper) {p : Place} {m : Node α} :
    (p, m) ∈ walk todo ↔ ∃ d ∈ todo, ∃ q ≠ [], p = d.1 ++ q ∧ (dir d.2).get? q = some m := by
  fun_induction walk todo with
  | case1 => simp
  | case2 here es todo ih =>
    obtain ⟨now, others⟩ := List.forall_mem_cons.1 proper
    obtain ⟨distinct, _⟩ := now [] es (get?_nil _)
    have step {k : String} {m : Node α} : (k, m) ∈ es ↔ (dir es).get? [k] = some m := by
      rw [get?, ← lookup_eq_some_iff distinct]
      cases es.lookup k with
      | none => simp
      | some m => rw [Option.bind_some, get?_nil]
    have below : ∀ d ∈ subdirs here es ++ todo, (dir d.2).Proper := by
      intro d hd
      rcases List.mem_append.1 hd with sub | later
      · obtain ⟨k, mem, _⟩ := mem_subdirs.1 sub
        exact now.of_get? (step.1 mem)
      · exact others d later
    rw [List.mem_append, ih below, List.mem_map]
    constructor
    · rintro (⟨⟨k, m'⟩, mem, same⟩ | ⟨d, hd, q, hq, place, found⟩)
      · obtain ⟨rfl, rfl⟩ := Prod.mk.inj same
        exact ⟨_, List.mem_cons_self, [k], List.cons_ne_nil _ _, rfl, step.1 mem⟩
      · rcases List.mem_append.1 hd with sub | later
        · obtain ⟨k, mem, there⟩ := mem_subdirs.1 sub
          refine ⟨_, List.mem_cons_self, k :: q, List.cons_ne_nil _ _, ?_, ?_⟩
          · rw [place, there, List.append_assoc, List.singleton_append]
          · rw [← List.singleton_append, get?_append, step.1 mem, Option.bind_some, found]
        · exact ⟨d, List.mem_cons_of_mem _ later, q, hq, place, found⟩
    · rintro ⟨d, hd, q, hq, place, found⟩
      rcases List.mem_cons.1 hd with rfl | later
      · obtain ⟨k, q, rfl⟩ := List.exists_cons_of_ne_nil hq
        rw [← List.singleton_append, get?_append] at found
        obtain ⟨m', there, found⟩ := Option.bind_eq_some_iff.1 found
        cases q with
        | nil =>
          rw [get?_nil, Option.some_inj] at found
          obtain rfl := found
          exact Or.inl ⟨(k, m'), step.2 there, Prod.ext place.symm rfl⟩
        | cons k' q =>
          cases m' with
          | dir es' =>
            refine Or.inr ⟨(here ++ [k], es'), List.mem_append_left _ ?_, k' :: q,
              List.cons_ne_nil _ _, ?_, found⟩
            · exact mem_subdirs.2 ⟨k, step.2 there, rfl⟩
            · rw [place, List.append_assoc, List.singleton_append]
          | file | link => cases found
      · exact Or.inr ⟨d, List.mem_append_right _ later, q, hq, place, found⟩

/-- **A walk lists everything below a directory**, with its place. -/
theorem mem_descendants_iff (h : n.Proper) {m : Node α} :
    (p, m) ∈ n.descendants ↔ p ≠ [] ∧ n.get? p = some m := by
  cases n with
  | dir es =>
    have start : ∀ d ∈ [(([] : Place), es)], (dir d.2).Proper := by
      intro d hd
      rw [List.mem_singleton.1 hd]
      exact h
    rw [descendants, mem_walk_iff start]
    constructor
    · rintro ⟨d, hd, q, hq, rfl, found⟩
      obtain rfl := List.mem_singleton.1 hd
      exact ⟨hq, found⟩
    · rintro ⟨hp, found⟩
      exact ⟨_, List.mem_singleton_self _, p, hp, rfl, found⟩
  | file | link =>
    refine iff_of_false List.not_mem_nil ?_
    rintro ⟨hp, found⟩
    obtain ⟨k, p, rfl⟩ := List.exists_cons_of_ne_nil hp
    cases found

/-- Whether the last name of a place is one of an index file. -/
def isReserved (place : Place) : Bool := isIndexFile (place.getLast?.getD "")

/-- **A scan lists** what is below a directory and is no directory, except index files. -/
theorem mem_scan_iff (h : n.Proper) :
    p ∈ n.scan ↔ p ≠ [] ∧ n.kind? p = some false ∧ isReserved p = false := by
  rw [scan, List.mem_map]
  constructor
  · rintro ⟨⟨place, m⟩, mem, rfl⟩
    obtain ⟨mem, listed⟩ := List.mem_filter.1 mem
    obtain ⟨hp, found⟩ := (mem_descendants_iff h).1 mem
    simp only [isListed, Bool.and_eq_true, Bool.not_eq_true'] at listed
    exact ⟨hp, by rw [kind?, found, Option.map_some, listed.1], listed.2⟩
  · rintro ⟨hp, kind, free⟩
    obtain ⟨m, found, file⟩ := Option.map_eq_some_iff.1 kind
    refine ⟨(p, m), List.mem_filter.2 ⟨(mem_descendants_iff h).2 ⟨hp, found⟩, ?_⟩, rfl⟩
    simp only [isListed, Bool.and_eq_true, Bool.not_eq_true']
    exact ⟨file, free⟩

end TagSearch.Node
