import TagSearch.Proofs.Catalog.Runs

/-!
# Where recorded paths come from

A recorded path was given to an action, or it was made by one from the new place of a directory and
the end of a recorded path. A property of texts that holds of the paths given and is not lost when
paths are put together therefore holds of all recorded paths.

* `Catalog.AllPaths` says that all recorded paths have a property.
* `Catalog.AllPaths.effect`: an action keeps the property if the paths given to it have it.
* `Session.nulFree_run`: paths without NUL stay without NUL.
-/

namespace TagSearch

/-- The paths that an action may record, or put in front of others. -/
def IndexAction.paths : IndexAction → List String
  | .build _ found _ => found
  | .place path => [path]
  | .rename _ new => [new]
  | .renameDir _ new => [new]
  | .applyChanges events => events.flatMap fun e => e.path :: e.dest?.toList
  | .markMissing _ | .markDirMissing _ | .refreshTokens | .addTags _ _ | .removeTags _ _
  | .reopen | .abort => []

/-- A text without NUL. -/
def NulFree (s : String) : Prop := '\x00' ∉ s.toList

instance : DecidablePred NulFree := fun s => inferInstanceAs (Decidable ('\x00' ∉ s.toList))

namespace Catalog

/-- All recorded paths have a property. -/
def AllPaths (Q : String → Prop) (c : Catalog) : Prop := ∀ f ∈ c.files, Q f.path

variable {Q : String → Prop} {c : Catalog}

namespace AllPaths

/-! ## The changes of the recorded files -/

theorem of_subset {c' : Catalog} (h : c.AllPaths Q) (sub : c'.files ⊆ c.files) : c'.AllPaths Q :=
  fun f hf => h f (sub hf)

theorem mapFiles (h : c.AllPaths Q) {g : FileRecord → FileRecord}
    (keeps : ∀ r, Q r.path → Q (g r).path) : { c with files := c.files.map g }.AllPaths Q := by
  intro f hf
  obtain ⟨r, hr, rfl⟩ := List.mem_map.1 hf
  exact keeps r (h r hr)

theorem update (h : c.AllPaths Q) {id : Int} {g : FileRecord → FileRecord}
    (keeps : ∀ r, Q r.path → Q (g r).path) : (c.update id g).AllPaths Q := by
  refine h.mapFiles fun r hr => ?_
  split
  · exact keeps r hr
  · exact hr

theorem insert (h : c.AllPaths Q) {path : String} (hp : Q path) : (c.insert path).AllPaths Q := by
  intro f hf
  rcases List.mem_append.1 hf with hf | hf
  · exact h f hf
  · rw [List.mem_singleton.1 hf]
    exact hp

/-! ## Files that come, go and move -/

theorem place (h : c.AllPaths Q) {path : String} (hp : Q path) : (c.place path).AllPaths Q := by
  rw [Catalog.place]
  cases c.find? path with
  | none => exact h.insert hp
  | some f => exact h.update fun r hr => hr

theorem markMissing (h : c.AllPaths Q) (path : String) : (c.markMissing path).AllPaths Q := by
  rw [Catalog.markMissing]
  cases c.find? path with
  | none => exact h
  | some f => exact h.update fun r hr => hr

theorem rename (h : c.AllPaths Q) (old : String) {new : String} (hnew : Q new) :
    (c.rename old new).AllPaths Q := by
  rw [Catalog.rename]
  cases c.find? old with
  | none => exact h.place hnew
  | some f =>
    refine update ?_ fun r hr => hnew
    cases c.find? new with
    | none => exact h
    | some g =>
      dsimp only
      split
      · exact h
      · exact h.of_subset List.filter_sublist.subset

theorem markDirMissing (h : c.AllPaths Q) (dir : String) : (c.markDirMissing dir).AllPaths Q := by
  refine h.mapFiles fun r hr => ?_
  split <;> exact hr

theorem renameDir (h : c.AllPaths Q) (old : String) {new : String}
    (joined : ∀ path, Q path → Q (rebase old new path)) : (c.renameDir old new).AllPaths Q := by
  have moves : ∀ move ∈ c.dirMoves old new, Q move.2 := by
    intro move hmove
    obtain ⟨f, hf, rfl⟩ := List.mem_map.1 hmove
    exact joined f.path (h f (List.mem_of_mem_filter hf))
  rw [Catalog.renameDir]
  generalize c.dirMoves old new = all at moves
  induction all generalizing c with
  | nil => exact h
  | cons move all ih =>
    exact ih (h.rename move.1 (moves move List.mem_cons_self)) fun m hm =>
      moves m (List.mem_cons_of_mem _ hm)

theorem sync (h : c.AllPaths Q) {found : List String} (given : ∀ p ∈ found, Q p) (prune : Bool) :
    (c.sync found prune).AllPaths Q := by
  have new : ∀ p ∈ c.newPaths found, Q p := by
    intro p hp
    have mem := (List.mergeSort_perm _ _).subset hp
    rw [List.mem_eraseDups] at mem
    exact given p (List.mem_of_mem_filter mem)
  have grown : ((c.newPaths found).foldl Catalog.insert c).AllPaths Q := by
    generalize c.newPaths found = paths at new
    induction paths generalizing c with
    | nil => exact h
    | cons path paths ih =>
      exact ih (h.insert (new path List.mem_cons_self)) fun p hp =>
        new p (List.mem_cons_of_mem _ hp)
  rw [Catalog.sync]
  cases prune with
  | false => exact grown.mapFiles fun r hr => hr
  | true =>
    intro f hf
    obtain ⟨r, hr, rfl⟩ := List.mem_map.1 hf
    exact grown r (List.mem_of_mem_filter hr)

/-! ## Actions -/

theorem step (h : c.AllPaths Q) (joined : ∀ old new path, Q new → Q path → Q (rebase old new path))
    {e : Change} (given : ∀ p ∈ e.path :: e.dest?.toList, Q p) : (c.step e).1.AllPaths Q := by
  obtain ⟨kind, path, dest?⟩ := e
  cases kind with
  | created => exact h.place (given path List.mem_cons_self)
  | deleted => exact h.markMissing path
  | dirDeleted => exact h.markDirMissing path
  | moved =>
    cases dest? with
    | none => exact h
    | some dest => exact h.rename path (given dest (by simp))
  | dirMoved =>
    cases dest? with
    | none => exact h
    | some dest => exact h.renameDir path fun p hp => joined path dest p (given dest (by simp)) hp

theorem steps (h : c.AllPaths Q) (joined : ∀ old new path, Q new → Q path → Q (rebase old new path))
    {events : List Change} (given : ∀ e ∈ events, ∀ p ∈ e.path :: e.dest?.toList, Q p) :
    (c.steps events).1.AllPaths Q := by
  induction events generalizing c with
  | nil => exact h
  | cons e events ih =>
    rw [steps_cons]
    exact ih (h.step joined (given e List.mem_cons_self)) fun e' he' =>
      given e' (List.mem_cons_of_mem _ he')

theorem withTags (h : c.AllPaths Q) (rows : List (Int × String)) :
    (c.withTags rows).AllPaths Q := by
  rw [Catalog.withTags]
  split <;> exact h

theorem reopened (h : c.AllPaths Q) : c.stored.open.AllPaths Q :=
  fun f hf => h f ((List.mergeSort_perm _ _).subset hf)

/-- **An action keeps a property of all paths**, if the paths given to it have it. -/
theorem effect (h : c.AllPaths Q)
    (joined : ∀ old new path, Q new → Q path → Q (rebase old new path))
    {a : IndexAction} (given : ∀ p ∈ a.paths, Q p) : (a.effect c).AllPaths Q := by
  cases a with
  | build root found prune => exact h.sync given prune
  | place path => exact h.place (given path List.mem_cons_self)
  | markMissing path => exact h.markMissing path
  | rename old new => exact h.rename old (given new List.mem_cons_self)
  | markDirMissing dir => exact h.markDirMissing dir
  | renameDir old new =>
    exact h.renameDir old fun p hp => joined old new p (given new List.mem_cons_self) hp
  | refreshTokens => exact h
  | applyChanges events =>
    have all := h.steps joined fun e he p hp => given p (List.mem_flatMap.2 ⟨e, he, hp⟩)
    show (if _ then (c.steps events).1 else _).AllPaths Q
    split
    · exact all
    · exact all
  | addTags paths tags =>
    refine after_of_ok h fun r added => ?_
    obtain ⟨rows, e, _⟩ := addTags_withTags added
    rw [e]
    exact h.withTags rows
  | removeTags paths tags =>
    refine after_of_ok h fun r removed => ?_
    obtain ⟨rows, e, _⟩ := removeTags_withTags removed
    rw [e]
    exact h.withTags rows
  | reopen => exact h.reopened
  | abort => exact h.reopened

end AllPaths

end Catalog

/-! ## Texts without NUL -/

theorem nulFree_rebase (old : String) {new path : String} (hnew : NulFree new)
    (hpath : NulFree path) : NulFree (Catalog.rebase old new path) := by
  rw [NulFree, Catalog.rebase, String.toList_append, String.toList_ofList, List.mem_append]
  rintro (mem | mem)
  · exact hnew mem
  · exact hpath (List.mem_of_mem_drop mem)

/-- **No recorded path has a NUL** if none of the paths given has. -/
theorem Session.nulFree_run {actions : List IndexAction}
    (h : ∀ a ∈ actions, ∀ p ∈ a.paths, NulFree p) :
    (fresh.run actions).catalog.AllPaths NulFree ∧ (fresh.run actions).committed.AllPaths NulFree :=
  run_preserves (fun _ _ given h => h.effect (fun old _ _ => nulFree_rebase old) given)
    (fun _ h => h.reopened) h fresh ⟨by simp [Catalog.AllPaths, fresh, Catalog.empty],
      by simp [Catalog.AllPaths, fresh, Catalog.empty]⟩

end TagSearch
