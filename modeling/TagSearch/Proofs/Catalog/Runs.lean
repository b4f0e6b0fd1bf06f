import TagSearch.Catalog.Action
import TagSearch.Proofs.Catalog.Mirror

/-!
# Runs of actions

What every action does to the tables, and what therefore holds after any number of actions. A
session holds two catalogs, the tables in use and those that were committed last, and an action
leaves each of them in one of three ways.

* `IndexAction.effect` is what an action does to the tables in use.
* `Session.perform_cases`: the tables are changed, changed and committed, or taken back.
* `Session.run_preserves`: what effects and opening again keep, runs keep.
* `Session.run_consistent_and_mirrored`: the tables are consistent after every run.
-/

namespace TagSearch

/-! ## One action -/

/-- The tables after an action that may be refused. -/
def Catalog.after (c : Catalog) : Except TaggingError (Catalog × Nat) → Catalog
  | .ok r => r.1
  | .error _ => c

/-- What an action does to the tables in use, if they are not taken back. -/
def IndexAction.effect (c : Catalog) : IndexAction → Catalog
  | .build root found prune => Session.scanned c root found prune
  | .place path => c.place path
  | .markMissing path => c.markMissing path
  | .rename old new => c.rename old new
  | .markDirMissing dir => c.markDirMissing dir
  | .renameDir old new => c.renameDir old new
  | .refreshTokens => c.refreshTokens
  | .applyChanges events => c.after (.ok (c.applyChanges events))
  | .addTags paths tags => c.after (c.addTags paths tags)
  | .removeTags paths tags => c.after (c.removeTags paths tags)
  | .reopen | .abort => c.stored.open

/-- An action that never changes a tag without making the token table anew: any but a single move,
which may remove the tags of the file that it replaces. -/
def IndexAction.isRoutine : IndexAction → Bool
  | .rename _ _ | .renameDir _ _ => false
  | _ => true

/-- A reply that counts something. -/
def Reply.isPositive : Reply → Bool
  | .count n => 0 < n
  | _ => false

/-- The reply to an action tells that the token table was made anew and committed: a scan always
does that, changes and taggings do if they count. -/
def IndexAction.refreshes (reply : Reply) : IndexAction → Bool
  | .build _ _ _ => true
  | .applyChanges _ | .addTags _ _ | .removeTags _ _ => reply.isPositive
  | _ => false

namespace Session

variable {s : Session}

/-- An action that counts changes the tables in use, and may commit them. -/
theorem counted_cases (s : Session) (x : Except TaggingError (Catalog × Nat)) :
    (s.counted (x.map s.settle)).1 = ⟨s.catalog.after x, s.committed⟩ ∨
    (s.counted (x.map s.settle)).1 = ⟨s.catalog.after x, s.catalog.after x⟩ := by
  cases x with
  | error e => exact Or.inl rfl
  | ok r =>
    rw [Except.map, counted, settle]
    dsimp only
    split
    · exact Or.inl rfl
    · exact Or.inr rfl

/-- An action that counted something has committed its tables. -/
theorem counted_of_isPositive {x : Except TaggingError (Catalog × Nat)}
    (h : (s.counted (x.map s.settle)).2.isPositive = true) :
    ∃ r, x = .ok r ∧ r.2 ≠ 0 ∧ (s.counted (x.map s.settle)).1 = ⟨r.1, r.1⟩ := by
  cases x with
  | error e => cases h
  | ok r =>
    have pos : r.2 ≠ 0 := Nat.ne_of_gt (of_decide_eq_true h)
    refine ⟨r, rfl, pos, ?_⟩
    rw [Except.map, counted, settle]
    dsimp only
    rw [if_neg pos]
    rfl

/-- **The three ways of an action**: it changes the tables in use, it also commits them, or the
committed tables are opened again. -/
theorem perform_cases (s : Session) (a : IndexAction) :
    (s.perform a).1 = ⟨a.effect s.catalog, s.committed⟩ ∨
    (s.perform a).1 = ⟨a.effect s.catalog, a.effect s.catalog⟩ ∨
    (s.perform a).1 = ⟨s.committed.stored.open, s.committed.stored.open⟩ := by
  cases a with
  | build => exact Or.inr (Or.inl rfl)
  | place => exact Or.inl rfl
  | markMissing => exact Or.inl rfl
  | rename => exact Or.inl rfl
  | markDirMissing => exact Or.inl rfl
  | renameDir => exact Or.inl rfl
  | refreshTokens => exact Or.inl rfl
  | applyChanges events =>
    rcases counted_cases s (.ok (s.catalog.applyChanges events)) with h | h
    · exact Or.inl h
    · exact Or.inr (Or.inl h)
  | addTags paths tags =>
    rcases counted_cases s (s.catalog.addTags paths tags) with h | h
    · exact Or.inl h
    · exact Or.inr (Or.inl h)
  | removeTags paths tags =>
    rcases counted_cases s (s.catalog.removeTags paths tags) with h | h
    · exact Or.inl h
    · exact Or.inr (Or.inl h)
  | reopen => exact Or.inr (Or.inl rfl)
  | abort => exact Or.inr (Or.inr rfl)

/-! ## Any number of actions -/

/-- **What every effect keeps, every run keeps**, of the tables in use and of those committed. -/
theorem run_preserves {P : Catalog → Prop} {allowed : IndexAction → Prop}
    (effect : ∀ c a, allowed a → P c → P (a.effect c)) (reopened : ∀ c, P c → P c.stored.open)
    {actions : List IndexAction} (h : ∀ a ∈ actions, allowed a) (s : Session)
    (start : P s.catalog ∧ P s.committed) :
    P (s.run actions).catalog ∧ P (s.run actions).committed := by
  induction actions generalizing s with
  | nil => exact start
  | cons a actions ih =>
    rw [run_cons]
    refine ih (fun b hb => h b (List.mem_cons_of_mem _ hb)) _ ?_
    have changed := effect s.catalog a (h a List.mem_cons_self) start.1
    rcases perform_cases s a with e | e | e
    · rw [e]
      exact ⟨changed, start.2⟩
    · rw [e]
      exact ⟨changed, changed⟩
    · rw [e]
      exact ⟨reopened _ start.2, reopened _ start.2⟩

end Session

/-! ## Consistent tables -/

namespace Catalog

variable {c : Catalog} {a : IndexAction}

/-- What the tables satisfy before and after a tagging that is not refused, they satisfy after. -/
theorem after_of_ok {P : Catalog → Prop} {x : Except TaggingError (Catalog × Nat)} (h : P c)
    (ok : ∀ r, x = .ok r → P r.1) : P (c.after x) := by
  cases x with
  | error e => exact h
  | ok r => exact ok r rfl

theorem Consistent.effect (h : c.Consistent) (a : IndexAction) : (a.effect c).Consistent := by
  cases a with
  | build root found prune => exact h.scanned root found prune
  | place path => exact h.place path
  | markMissing path => exact h.markMissing path
  | rename old new => exact h.rename old new
  | markDirMissing dir => exact h.markDirMissing dir
  | renameDir old new => exact h.renameDir old new
  | refreshTokens => exact h.refreshTokens
  | applyChanges events => exact h.applyChanges events
  | addTags paths tags => exact after_of_ok h fun r added => h.addTags added
  | removeTags paths tags => exact after_of_ok h fun r removed => h.removeTags removed
  | reopen => exact h.reopened
  | abort => exact h.reopened

theorem Mirrored.effect (h : c.Mirrored) (routine : a.isRoutine = true) :
    (a.effect c).Mirrored := by
  cases a with
  | build root found prune => exact mirrored_scanned c root found prune
  | place path => exact h.place path
  | markMissing path => exact h.markMissing path
  | markDirMissing dir => exact h.markDirMissing dir
  | refreshTokens => exact mirrored_refreshTokens c
  | applyChanges events => exact h.applyChanges events
  | addTags paths tags => exact after_of_ok h fun r added => h.addTags added
  | removeTags paths tags => exact after_of_ok h fun r removed => h.removeTags removed
  | reopen => exact h.reopened
  | abort => exact h.reopened
  | rename => cases routine
  | renameDir => cases routine

end Catalog

namespace Session

theorem consistent_run (actions : List IndexAction) :
    (fresh.run actions).catalog.Consistent ∧ (fresh.run actions).committed.Consistent :=
  @run_preserves Catalog.Consistent (fun _ => True) (fun _ a _ h => h.effect a)
    (fun _ h => h.reopened) actions (fun _ _ => trivial) fresh
    ⟨Catalog.consistent_empty, Catalog.consistent_empty⟩

theorem mirrored_run {actions : List IndexAction} (h : ∀ a ∈ actions, a.isRoutine = true) :
    (fresh.run actions).catalog.Mirrored ∧ (fresh.run actions).committed.Mirrored :=
  run_preserves (fun _ _ routine h => h.effect routine) (fun _ h => h.reopened) h fresh
    ⟨.refl _, .refl _⟩

theorem mirrored_of_isPositive {s : Session} {x : Except TaggingError (Catalog × Nat)}
    (made : ∀ r, x = .ok r → r.2 ≠ 0 → r.1.Mirrored)
    (h : (s.counted (x.map s.settle)).2.isPositive = true) :
    (s.counted (x.map s.settle)).1.catalog.Mirrored ∧
      (s.counted (x.map s.settle)).1.committed.Mirrored := by
  obtain ⟨r, hx, counted, e⟩ := counted_of_isPositive h
  rw [e]
  exact ⟨made r hx counted, made r hx counted⟩

/-- **The token table is made anew** by an action that says so, whatever it was before. -/
theorem mirrored_perform {s : Session} {a : IndexAction}
    (h : a.refreshes (s.perform a).2 = true) :
    (s.perform a).1.catalog.Mirrored ∧ (s.perform a).1.committed.Mirrored := by
  cases a with
  | build root found prune =>
    have made := Catalog.mirrored_scanned s.catalog root found prune
    exact ⟨made, made⟩
  | applyChanges events =>
    have made : ∀ r, Except.ok (s.catalog.applyChanges events) = Except.ok (ε := TaggingError) r →
        r.2 ≠ 0 → r.1.Mirrored := by
      rintro r e counted
      obtain rfl := Except.ok.inj e
      exact Catalog.mirrored_applyChanges counted
    exact mirrored_of_isPositive made h
  | addTags paths tags => exact mirrored_of_isPositive (fun _ => Catalog.mirrored_addTags) h
  | removeTags paths tags => exact mirrored_of_isPositive (fun _ => Catalog.mirrored_removeTags) h
  | place | markMissing | rename | markDirMissing | renameDir | refreshTokens | reopen | abort =>
    cases h

/-- **The tables are as they should be after every run.** On a new index, whatever is done, refused
taggings included, numbers and paths are distinct, numbers are positive, and tags are trimmed,
belong to recorded files and are not repeated. If files are moved by scans and changes only, and not
one by one, the token table mirrors the tags. And an action that makes the token table anew has it
mirror the tags whatever the tables were. -/
theorem run_consistent_and_mirrored (actions : List IndexAction) :
    ((fresh.run actions).catalog.Consistent ∧ (fresh.run actions).committed.Consistent) ∧
    ((∀ a ∈ actions, a.isRoutine = true) →
      (fresh.run actions).catalog.Mirrored ∧ (fresh.run actions).committed.Mirrored) ∧
    (∀ (s : Session) (a : IndexAction), a.refreshes (s.perform a).2 = true →
      (s.perform a).1.catalog.Mirrored ∧ (s.perform a).1.committed.Mirrored) :=
  ⟨consistent_run actions, mirrored_run, fun _ _ => mirrored_perform⟩

theorem run_consistent_and_mirrored_tagged :
    let actions : List IndexAction := [.build "root" ["a"] false, .addTags ["a"] [" x "]]
    let unmirrored : Session := ⟨⟨[⟨1, "a", true⟩], [(1, "x")], [], none⟩, .empty⟩
    let scan : IndexAction := .build "root" ["a"] true
    ((fresh.run actions).catalog.Consistent ∧ (fresh.run actions).committed.Consistent) ∧
    ((∀ a ∈ actions, a.isRoutine = true) ∧
      (fresh.run actions).catalog.Mirrored ∧ (fresh.run actions).committed.Mirrored) ∧
    (scan.refreshes (unmirrored.perform scan).2 = true ∧
      (unmirrored.perform scan).1.catalog.Mirrored ∧
      (unmirrored.perform scan).1.committed.Mirrored) := by
  intro actions unmirrored scan
  have routine : ∀ a ∈ actions, a.isRoutine = true := by decide
  have made : scan.refreshes (unmirrored.perform scan).2 = true := rfl
  obtain ⟨consistent, mirrored, refreshed⟩ := run_consistent_and_mirrored actions
  exact ⟨consistent, ⟨routine, mirrored routine⟩, made, refreshed unmirrored scan made⟩

end Session

end TagSearch
