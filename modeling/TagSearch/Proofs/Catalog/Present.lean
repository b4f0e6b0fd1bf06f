import TagSearch.Proofs.Catalog.Batches
import TagSearch.Proofs.Catalog.Directories

/-!
# The paths that are present

What changes and scans do to the set of the present paths. Missing files do not matter to it: the
path that one is recorded under may become present, and the record may go, but no other path is
present for that.

* `Catalog.mem_presentPaths_place`, `mem_presentPaths_rename`, …: what a change does.
* `Catalog.mem_presentPaths_created`: the changes that a list of paths makes when they appear.
* `Catalog.mem_presentPaths_sync`: after a scan the paths found are present, and no others.
-/

namespace TagSearch

namespace Catalog

variable {c d : Catalog} {path : String}

/-- The paths that are present, in the order of the numbers. -/
def presentPaths (c : Catalog) : List String := (c.files.filter (·.present)).map (·.path)

theorem mem_presentPaths : path ∈ c.presentPaths ↔ (path, true) ∈ c.files.map (·.standing) := by
  simp only [presentPaths, FileRecord.standing, List.mem_map, List.mem_filter, Prod.mk.injEq]
  constructor
  · rintro ⟨f, ⟨hf, present⟩, rfl⟩
    exact ⟨f, hf, rfl, present⟩
  · rintro ⟨f, hf, rfl, present⟩
    exact ⟨f, ⟨hf, present⟩, rfl⟩

theorem records_of_mem_presentPaths (h : path ∈ c.presentPaths) : c.records path = true := by
  obtain ⟨f, hf, rfl⟩ := List.mem_map.1 h
  exact records_iff.2 ⟨f, List.mem_of_mem_filter hf, rfl⟩

/-- A path is present after a turn if a file gets there, or if it is recorded anew. -/
theorem Turns.mem_presentPaths {fate : Fate} {new : List String} (h : c.Turns d fate new) :
    path ∈ d.presentPaths ↔
      (∃ s ∈ c.files.map (·.standing), fate s = some (path, true)) ∨ path ∈ new := by
  rw [Catalog.mem_presentPaths, h.mem_standings, and_iff_left rfl]

/-! ## Changes -/

theorem mem_presentPaths_place (h : c.Consistent) (new : String) :
    path ∈ (c.place new).presentPaths ↔ path ∈ c.presentPaths ∨ path = new := by
  rw [(turns_place h new).mem_presentPaths, mem_presentPaths]
  constructor
  · rintro (⟨s, hs, met⟩ | mem)
    · rw [markFate, Option.some_inj] at met
      split at met
      · exact Or.inr (congrArg Prod.fst met).symm
      · exact Or.inl (met ▸ hs)
    · split at mem
      · cases mem
      · exact Or.inr (List.mem_singleton.1 mem)
  · by_cases here : path = new
    · rintro -
      subst here
      cases recorded : c.records path with
      | true =>
        obtain ⟨f, hf, rfl⟩ := records_iff.1 recorded
        exact Or.inl ⟨_, List.mem_map_of_mem hf, by simp [markFate, FileRecord.standing]⟩
      | false => exact Or.inr (by simp)
    · rintro (present | same)
      · exact Or.inl ⟨_, present, by simp [markFate, here]⟩
      · exact (here same).elim

theorem mem_presentPaths_markMissing (h : c.Consistent) (old : String) :
    path ∈ (c.markMissing old).presentPaths ↔ path ∈ c.presentPaths ∧ path ≠ old := by
  rw [(turns_markMissing h old).mem_presentPaths, mem_presentPaths]
  simp only [List.not_mem_nil, or_false, markFate, Option.some_inj]
  constructor
  · rintro ⟨s, hs, met⟩
    split at met
    · cases met
    · rename_i other
      subst met
      exact ⟨hs, other⟩
  · rintro ⟨present, other⟩
    exact ⟨_, present, if_neg other⟩

/-- A file that moves is where it moves to. -/
theorem mem_presentPaths_rename (h : c.Consistent) {old : String} (new : String)
    (present : old ∈ c.presentPaths) :
    path ∈ (c.rename old new).presentPaths ↔
      (path ∈ c.presentPaths ∧ path ≠ old) ∨ path = new := by
  rw [(turns_rename h new (records_of_mem_presentPaths present)).mem_presentPaths, mem_presentPaths]
  rw [mem_presentPaths] at present
  simp only [List.not_mem_nil, or_false]
  constructor
  · rintro ⟨s, hs, met⟩
    rw [moveFate] at met
    split at met
    · exact Or.inr (congrArg Prod.fst (Option.some.inj met)).symm
    · rename_i other
      split at met
      · cases met
      · obtain rfl := Option.some.inj met
        exact Or.inl ⟨hs, other⟩
  · by_cases there : path = new
    · rintro -
      exact ⟨_, present, by simp [moveFate, there]⟩
    · rintro (⟨hs, other⟩ | same)
      · exact ⟨_, hs, by simp [moveFate, other, there]⟩
      · exact (there same).elim

theorem mem_presentPaths_markDirMissing (h : c.Consistent) (dir : String) :
    path ∈ (c.markDirMissing dir).presentPaths ↔
      path ∈ c.presentPaths ∧ ¬ isBelow dir path = true := by
  rw [(turns_markDirMissing h dir).mem_presentPaths, mem_presentPaths]
  simp only [List.not_mem_nil, or_false, dirGoneFate, Option.some_inj, Prod.mk.injEq]
  constructor
  · rintro ⟨⟨_, present⟩, hs, rfl, both⟩
    rw [Bool.and_eq_true, Bool.not_eq_true'] at both
    obtain ⟨rfl, outside⟩ := both
    exact ⟨hs, by simp [outside]⟩
  · rintro ⟨hs, outside⟩
    exact ⟨_, hs, rfl, by simpa using outside⟩

/-- A directory that moves takes along what is present below it. -/
theorem mem_presentPaths_renameDir (h : c.Consistent) {old new : String} (apart : Apart old new) :
    path ∈ (c.renameDir old new).presentPaths ↔
      (path ∈ c.presentPaths ∧ ¬ isBelow old path = true) ∨
      ∃ p ∈ c.presentPaths, isBelow old p = true ∧ path = rebase old new p := by
  have turns := turns_renameDir h apart
  rw [turns.mem_presentPaths]
  simp only [List.not_mem_nil, or_false, mem_presentPaths]
  constructor
  · rintro ⟨s, hs, met⟩
    rw [dirMoveFate] at met
    split at met
    · rename_i moves
      rw [Bool.and_eq_true] at moves
      refine Or.inr ⟨s.1, ?_, moves.1, (congrArg Prod.fst (Option.some.inj met)).symm⟩
      rwa [← moves.2]
    · rename_i stays
      split at met
      · cases met
      · obtain rfl := Option.some.inj met
        exact Or.inl ⟨hs, by simpa using stays⟩
  · have moved {p : String} (hp : (p, true) ∈ c.files.map (·.standing))
        (below : isBelow old p = true) (target : path = rebase old new p) :
        ∃ s ∈ c.files.map (·.standing),
          dirMoveFate ((c.dirMoves old new).map (·.2)) old new s = some (path, true) :=
      ⟨_, hp, by simp [dirMoveFate, below, target]⟩
    rintro (⟨hs, outside⟩ | ⟨p, hp, below, target⟩)
    · by_cases reached : path ∈ (c.dirMoves old new).map (·.2)
      · -- What is present at the new place is replaced by what moves there.
        obtain ⟨m, hm, rfl⟩ := List.mem_map.1 reached
        obtain ⟨⟨f, hf, source, present⟩, below, target⟩ := mem_dirMoves.1 hm
        refine moved (p := m.1) ?_ below target
        rw [← source, ← present]
        exact List.mem_map_of_mem hf
      · exact ⟨_, hs, by simp [dirMoveFate, outside, reached]⟩
    · exact moved hp below target

/-! ## Lists of changes -/

/-- Files that appear one after the other. -/
theorem mem_presentPaths_created (h : c.Consistent) (paths : List String) :
    path ∈ (c.steps (paths.map fun p => ⟨.created, p, none⟩)).1.presentPaths ↔
      path ∈ c.presentPaths ∨ path ∈ paths := by
  induction paths generalizing c with
  | nil => simp [steps]
  | cons p paths ih =>
    rw [List.map_cons, steps_cons, ih (h.step _), List.mem_cons, ← or_assoc]
    exact or_congr_left (mem_presentPaths_place h p)

theorem presentPaths_applyChanges (events : List Change) :
    (c.applyChanges events).1.presentPaths = (c.steps events).1.presentPaths := by
  rw [applyChanges]
  dsimp only
  split <;> rfl

/-! ## Scans -/

/-- **After a scan the paths found are present**, and no others. -/
theorem mem_presentPaths_sync (h : c.Consistent) (found : List String) (prune : Bool) :
    path ∈ (c.sync found prune).presentPaths ↔ path ∈ found := by
  rw [(turns_sync h found prune).mem_presentPaths]
  constructor
  · rintro (⟨s, _, met⟩ | mem)
    · rw [scanFate] at met
      split at met
      · rename_i mem
        obtain rfl := congrArg Prod.fst (Option.some.inj met)
        exact List.contains_iff_mem.1 mem
      · split at met <;> cases met
    · exact (mem_newPaths.1 mem).1
  · intro mem
    cases known : c.find? path with
    | none => exact Or.inr (mem_newPaths.2 ⟨mem, known⟩)
    | some f =>
      obtain ⟨hf, rfl⟩ := mem_of_find? known
      refine Or.inl ⟨_, List.mem_map_of_mem hf, ?_⟩
      show (if found.contains f.path = true then _ else _) = _
      rw [if_pos (List.contains_iff_mem.2 mem)]
      rfl

end Catalog

end TagSearch
