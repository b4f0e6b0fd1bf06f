import TagSearch.Catalog.Session
import TagSearch.Proofs.Catalog.Changes

/-!
# Changes in batches

Changes that wait are applied in batches, and after each batch that counts the token table is made
anew and everything is committed. How the changes are cut into batches makes no difference: no
change looks at the token table, and a batch that does not count has changed nothing.

* `Catalog.steps_withTokens`: a token table that is exchanged before changes is so after them.
* `Session.applyChanges_append`: a batch may be cut in two.
* `Session.applyBatches_eq_applyChanges`: batches do what all their changes do at once.
-/

namespace TagSearch

namespace Catalog

variable {c : Catalog}

/-! ## The token table does not matter -/

/-- The tables with another token table. -/
def withTokens (c : Catalog) (tokens : List (String × Int)) : Catalog := { c with tokens }

theorem refreshTokens_withTokens (c : Catalog) (tokens : List (String × Int)) :
    (c.withTokens tokens).refreshTokens = c.refreshTokens := rfl

theorem place_withTokens (tokens : List (String × Int)) (path : String) :
    (c.withTokens tokens).place path = (c.place path).withTokens tokens := by
  have same : (c.withTokens tokens).find? path = c.find? path := rfl
  rw [place, place, same]
  cases c.find? path <;> rfl

theorem markMissing_withTokens (tokens : List (String × Int)) (path : String) :
    (c.withTokens tokens).markMissing path = (c.markMissing path).withTokens tokens := by
  have same : (c.withTokens tokens).find? path = c.find? path := rfl
  rw [markMissing, markMissing, same]
  cases c.find? path <;> rfl

theorem rename_withTokens (tokens : List (String × Int)) (old new : String) :
    (c.withTokens tokens).rename old new = (c.rename old new).withTokens tokens := by
  have same (path) : (c.withTokens tokens).find? path = c.find? path := rfl
  rw [rename, rename, same, same]
  cases c.find? old with
  | none => exact place_withTokens tokens new
  | some f =>
    cases c.find? new with
    | none => rfl
    | some g =>
      dsimp only
      split <;> rfl

theorem renameDir_withTokens (tokens : List (String × Int)) (old new : String) :
    (c.withTokens tokens).renameDir old new = (c.renameDir old new).withTokens tokens := by
  have same : (c.withTokens tokens).dirMoves old new = c.dirMoves old new := rfl
  rw [renameDir, renameDir, same]
  clear same
  generalize c.dirMoves old new = moves
  induction moves generalizing c with
  | nil => rfl
  | cons move moves ih =>
    obtain ⟨a, b⟩ := move
    simp only [List.foldl_cons]
    rw [rename_withTokens, ih]

/-- A change does not look at the token table. -/
theorem step_withTokens (tokens : List (String × Int)) (e : Change) :
    (c.withTokens tokens).step e = ((c.step e).1.withTokens tokens, (c.step e).2) := by
  obtain ⟨kind, path, dest?⟩ := e
  cases kind with
  | created => exact Prod.ext (place_withTokens tokens path) rfl
  | deleted => exact Prod.ext (markMissing_withTokens tokens path) rfl
  | dirDeleted => rfl
  | moved =>
    cases dest? with
    | none => rfl
    | some dest => exact Prod.ext (rename_withTokens tokens path dest) rfl
  | dirMoved =>
    cases dest? with
    | none => rfl
    | some dest => exact Prod.ext (renameDir_withTokens tokens path dest) rfl

/-- **Changes do not look at the token table**, and do not change it. -/
theorem steps_withTokens (tokens : List (String × Int)) (events : List Change) :
    (c.withTokens tokens).steps events =
      ((c.steps events).1.withTokens tokens, (c.steps events).2) := by
  induction events generalizing c with
  | nil => rfl
  | cons e events ih => rw [steps_cons, steps_cons, step_withTokens, ih]

/-! ## Two batches -/

theorem steps_append (l₁ l₂ : List Change) :
    c.steps (l₁ ++ l₂) =
      (((c.steps l₁).1.steps l₂).1, (c.steps l₁).2 + ((c.steps l₁).1.steps l₂).2) := by
  induction l₁ generalizing c with
  | nil => exact Prod.ext rfl (Nat.zero_add _).symm
  | cons e l₁ ih =>
    rw [List.cons_append, steps_cons, steps_cons, ih]
    exact Prod.ext rfl (by dsimp only; omega)

theorem applyChanges_eq_self {events : List Change} (h : (c.steps events).2 = 0) :
    c.applyChanges events = (c, 0) := by
  rw [applyChanges]
  dsimp only
  rw [if_pos h, h, steps_of_not_counted h]

theorem applyChanges_eq_refreshed {events : List Change} (h : (c.steps events).2 ≠ 0) :
    c.applyChanges events = ((c.steps events).1.refreshTokens, (c.steps events).2) := by
  rw [applyChanges]
  dsimp only
  rw [if_neg h]

end Catalog

/-! ## Sessions -/

namespace Session

/-- A batch that does not count changes nothing and commits nothing. -/
theorem applyChanges_eq_self {s : Session} {events : List Change}
    (h : (s.catalog.steps events).2 = 0) : s.applyChanges events = (s, 0) := by
  rw [applyChanges, Catalog.applyChanges_eq_self h]
  rfl

/-- A batch that counts is followed by a fresh token table and a commit. -/
theorem applyChanges_eq_committed {s : Session} {events : List Change}
    (h : (s.catalog.steps events).2 ≠ 0) :
    s.applyChanges events =
      let c := (s.catalog.steps events).1.refreshTokens
      (⟨c, c⟩, (s.catalog.steps events).2) := by
  rw [applyChanges, Catalog.applyChanges_eq_refreshed h, settle]
  dsimp only
  rw [if_neg h]
  rfl

/-- **A batch may be cut in two**: the second part finds the tables as the first part left them. -/
theorem applyChanges_append (s : Session) (l₁ l₂ : List Change) :
    s.applyChanges (l₁ ++ l₂) =
      (((s.applyChanges l₁).1.applyChanges l₂).1,
        (s.applyChanges l₁).2 + ((s.applyChanges l₁).1.applyChanges l₂).2) := by
  have whole := @Catalog.steps_append s.catalog l₁ l₂
  by_cases first : (s.catalog.steps l₁).2 = 0
  · -- The first part changes nothing, so the second part is the whole.
    rw [Catalog.steps_of_not_counted first, first, Nat.zero_add] at whole
    rw [applyChanges_eq_self first, Nat.zero_add, applyChanges, applyChanges,
      Catalog.applyChanges, Catalog.applyChanges, whole]
  · rw [applyChanges_eq_committed first]
    dsimp only
    generalize hc : (s.catalog.steps l₁).1 = c at whole
    have after := @Catalog.steps_withTokens c c.refreshTokens.tokens l₂
    have total : (s.catalog.steps (l₁ ++ l₂)).2 ≠ 0 := by
      rw [whole]
      exact fun none => first (Nat.add_eq_zero_iff.1 none).1
    rw [applyChanges_eq_committed total, whole]
    by_cases second : (c.steps l₂).2 = 0
    · rw [second] at after
      rw [applyChanges_eq_self (congrArg Prod.snd after), Catalog.steps_of_not_counted second,
        second]
    · have second' : (c.refreshTokens.steps l₂).2 ≠ 0 := by
        rw [show c.refreshTokens.steps l₂ = _ from after]
        exact second
      rw [applyChanges_eq_committed second', show c.refreshTokens.steps l₂ = _ from after,
        Catalog.refreshTokens_withTokens]

/-- Applies batches of changes one after the other, and adds up what they count. -/
def applyBatches (s : Session) : List (List Change) → Session × Nat
  | [] => (s, 0)
  | events :: batches =>
    let (s, n) := s.applyChanges events
    let (s, m) := s.applyBatches batches
    (s, n + m)

/-- **How changes are cut into batches makes no difference** to the tables in use, to those that are
committed and to the count; and a batch counts nothing only if it changes nothing. -/
theorem applyBatches_eq_applyChanges (s : Session) (batches : List (List Change)) :
    s.applyBatches batches = s.applyChanges batches.flatten ∧
    ∀ events, (s.applyChanges events).2 = 0 ↔ s.applyChanges events = (s, 0) := by
  constructor
  · induction batches generalizing s with
    | nil => rfl
    | cons events batches ih =>
      rw [applyBatches, List.flatten_cons, applyChanges_append]
      dsimp only
      rw [ih]
  · intro events
    constructor
    · exact fun none => applyChanges_eq_self none
    · intro unchanged
      rw [unchanged]

end Session

end TagSearch
