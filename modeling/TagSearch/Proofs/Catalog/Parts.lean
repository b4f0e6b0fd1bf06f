import TagSearch.Proofs.Catalog.Directories

/-!
# Actions step by step

Changes and the operations on directories are lists of single steps, each on one path. Which steps
they are is settled by the tables at the start: the paths below a directory are listed before the
first of them is treated.

* `IndexAction.parts` takes an action apart into single steps.
* `Catalog.sameRows_parts`: an action is the single steps that it consists of.
-/

namespace TagSearch

/-! ## Single steps -/

/-- The single steps that a change consists of. -/
def Change.parts (c : Catalog) (e : Change) : List IndexAction :=
  match e.kind, e.dest? with
  | .created, _ => [.place e.path]
  | .deleted, _ => [.markMissing e.path]
  | .moved, some dest => [.rename e.path dest]
  | .dirDeleted, _ => (c.presentBelow e.path).map fun f => .markMissing f.path
  | .dirMoved, some dest => (c.dirMoves e.path dest).map fun (old, new) => .rename old new
  | _, none => []

/-- The single steps that changes applied in order consist of. -/
def Catalog.changeParts (c : Catalog) : List Change → List IndexAction
  | [] => []
  | e :: events => e.parts c ++ (c.step e).1.changeParts events

/-- The single steps that an action consists of. -/
def IndexAction.parts (c : Catalog) : IndexAction → List IndexAction
  | .markDirMissing dir => (c.presentBelow dir).map fun f => .markMissing f.path
  | .renameDir old new => (c.dirMoves old new).map fun (a, b) => .rename a b
  | .applyChanges events => c.changeParts events
  | .refreshTokens => []
  | a => [a]

/-- An action that is one step: on one path, by a scan, or on tags. -/
def IndexAction.isSingle : IndexAction → Bool
  | .build _ _ _ | .place _ | .markMissing _ | .rename _ _ | .addTags _ _ | .removeTags _ _ => true
  | _ => false

/-- An action that edits tags. -/
def IndexAction.isTagging : IndexAction → Bool
  | .addTags _ _ | .removeTags _ _ => true
  | _ => false

/-- An action within a session. -/
def IndexAction.staysOpen : IndexAction → Bool
  | .reopen | .abort => false
  | _ => true

theorem Change.isSingle_of_mem_parts {c : Catalog} {e : Change} {a : IndexAction}
    (ha : a ∈ e.parts c) : a.isSingle = true := by
  obtain ⟨kind, path, dest?⟩ := e
  cases kind with
  | created | deleted =>
    obtain rfl := List.mem_singleton.1 ha
    rfl
  | dirDeleted =>
    obtain ⟨_, _, rfl⟩ := List.mem_map.1 ha
    rfl
  | moved =>
    cases dest? with
    | none => cases ha
    | some dest =>
      obtain rfl := List.mem_singleton.1 ha
      rfl
  | dirMoved =>
    cases dest? with
    | none => cases ha
    | some dest =>
      obtain ⟨_, _, rfl⟩ := List.mem_map.1 ha
      rfl

theorem Catalog.isSingle_of_mem_changeParts {c : Catalog} {events : List Change} {a : IndexAction}
    (ha : a ∈ c.changeParts events) : a.isSingle = true := by
  induction events generalizing c with
  | nil => cases ha
  | cons e events ih =>
    rcases List.mem_append.1 ha with now | later
    · exact Change.isSingle_of_mem_parts now
    · exact ih later

theorem IndexAction.isSingle_of_mem_parts {c : Catalog} {a part : IndexAction}
    (inside : a.staysOpen = true) (mem : part ∈ a.parts c) : part.isSingle = true := by
  cases a with
  | markDirMissing | renameDir =>
    obtain ⟨_, _, rfl⟩ := List.mem_map.1 mem
    rfl
  | applyChanges => exact Catalog.isSingle_of_mem_changeParts mem
  | refreshTokens => cases mem
  | reopen | abort => cases inside
  | _ =>
    obtain rfl := List.mem_singleton.1 mem
    rfl

/-! ## Actions are their single steps -/

namespace Catalog

variable {c : Catalog}

/-- The tables after some actions within a session. -/
def runOn (c : Catalog) (actions : List IndexAction) : Catalog :=
  actions.foldl (fun c a => a.effect c) c

theorem runOn_append (c : Catalog) (l₁ l₂ : List IndexAction) :
    c.runOn (l₁ ++ l₂) = (c.runOn l₁).runOn l₂ := List.foldl_append

/-- Paths that become missing one after the other. -/
theorem runOn_markMissing (h : c.Consistent) (paths : List String) :
    c.runOn (paths.map .markMissing) =
      { c with
        files := c.files.map fun r =>
          if r.path ∈ paths then { r with present := false } else r } := by
  induction paths generalizing c with
  | nil => simp [runOn]
  | cons path paths ih =>
    have first : c.markMissing path =
        { c with
          files := c.files.map fun r =>
            if r.path = path then { r with present := false } else r } := by
      rw [markMissing]
      cases found : c.find? path with
      | none =>
        have still : (c.files.map fun r => if r.path = path then { r with present := false } else r)
            = c.files :=
          (List.map_congr_left fun r hr => if_neg (find?_eq_none_iff.1 found r hr)).trans
            (List.map_id _)
        rw [still]
      | some f =>
        obtain ⟨hf, rfl⟩ := mem_of_find? found
        dsimp only [update]
        congr 1
        refine List.map_congr_left fun r hr => ?_
        simp only [h.id_eq_iff hr hf]
    show (c.markMissing path).runOn (paths.map .markMissing) = _
    rw [ih (h.markMissing path), first]
    dsimp only
    congr 1
    rw [List.map_map]
    refine List.map_congr_left fun r _ => ?_
    by_cases here : r.path = path <;> by_cases other : r.path ∈ paths <;> simp [here, other]

/-- The files below a directory become missing one after the other. -/
theorem runOn_presentBelow (h : c.Consistent) (dir : String) :
    c.runOn ((c.presentBelow dir).map fun f => .markMissing f.path) = c.markDirMissing dir := by
  have paths : ((c.presentBelow dir).map fun f => IndexAction.markMissing f.path) =
      ((c.presentBelow dir).map (·.path)).map .markMissing := by
    rw [List.map_map]
    rfl
  rw [paths, runOn_markMissing h, markDirMissing]
  congr 1
  refine List.map_congr_left fun r hr => ?_
  have mem : r.path ∈ (c.presentBelow dir).map (·.path) ↔
      isBelow dir r.path = true ∧ r.present = true := by
    rw [List.mem_map]
    constructor
    · rintro ⟨g, hg, same⟩
      obtain ⟨hg, both⟩ := List.mem_filter.1 hg
      rw [← h.eq_of_path hg hr same]
      simpa using both
    · rintro ⟨below, present⟩
      exact ⟨r, List.mem_filter.2 ⟨hr, by simp [below, present]⟩, rfl⟩
  obtain ⟨id, path, present⟩ := r
  cases present <;> by_cases below : isBelow dir path = true <;> simp [mem, below]

theorem runOn_dirMoves (old new : String) :
    c.runOn ((c.dirMoves old new).map fun (a, b) => .rename a b) = c.renameDir old new := by
  rw [runOn, List.foldl_map]
  rfl

/-- **A change is the single steps that it consists of.** -/
theorem runOn_parts (h : c.Consistent) (e : Change) : c.runOn (e.parts c) = (c.step e).1 := by
  obtain ⟨kind, path, dest?⟩ := e
  cases kind with
  | created | deleted => rfl
  | dirDeleted => exact runOn_presentBelow h path
  | moved => cases dest? <;> rfl
  | dirMoved =>
    cases dest? with
    | none => rfl
    | some dest => exact runOn_dirMoves path dest

theorem runOn_changeParts (h : c.Consistent) (events : List Change) :
    c.runOn (c.changeParts events) = (c.steps events).1 := by
  induction events generalizing c with
  | nil => rfl
  | cons e events ih => rw [changeParts, runOn_append, runOn_parts h, ih (h.step e), steps_cons]

/-- The files and the tags are the same. -/
def SameRows (c d : Catalog) : Prop := d.files = c.files ∧ d.tags = c.tags

/-- **An action is the single steps that it consists of**, up to the token table. -/
theorem sameRows_parts (h : c.Consistent) {a : IndexAction} (inside : a.staysOpen = true) :
    SameRows (c.runOn (a.parts c)) (a.effect c) := by
  cases a with
  | build | place | markMissing | rename | refreshTokens | addTags | removeTags => exact ⟨rfl, rfl⟩
  | markDirMissing dir =>
    rw [IndexAction.parts, runOn_presentBelow h]
    exact ⟨rfl, rfl⟩
  | renameDir old new =>
    rw [IndexAction.parts, runOn_dirMoves]
    exact ⟨rfl, rfl⟩
  | applyChanges events =>
    rw [IndexAction.parts, runOn_changeParts h]
    show SameRows _ (c.applyChanges events).1
    rw [applyChanges]
    dsimp only
    split <;> exact ⟨rfl, rfl⟩
  | reopen | abort => cases inside

end Catalog

end TagSearch
