import TagSearch.Proofs.Catalog.Fates

/-!
# Directories that go and move

The move of a directory is a list of single moves, one for every present file below it, in the
order of the numbers. If neither of the two directories lies inside the other, no move gets in the
way of another one, and all of them together are one simultaneous move of the files below the
directory.

* `Catalog.Apart`: neither of two directories lies inside the other.
* `Catalog.turns_renameAll`: moves that do not get in each other's way are done at once.
* `Catalog.turns_renameDir` and `Catalog.turns_markDirMissing`: the fates of a directory.
-/

namespace TagSearch

namespace Catalog

variable {c : Catalog}

/-! ## Below a directory -/

/-- A path below a directory is the directory, a slash, and a rest. -/
theorem exists_rest_of_isBelow {dir path : String} (h : isBelow dir path = true) :
    ∃ rest, path.toList = dir.toList ++ '/' :: rest := by
  rw [isBelow, beq_iff_eq] at h
  obtain ⟨rest, e⟩ : dir.toList ++ ['/'] <+: path.toList := by
    rw [← h]
    exact (List.take_prefix _ _).trans (List.takeWhile_prefix _)
  exact ⟨rest, by rw [← e, List.append_assoc]; rfl⟩

theorem toList_rebase {old path : String} {rest : List Char}
    (h : path.toList = old.toList ++ '/' :: rest) (new : String) :
    (rebase old new path).toList = new.toList ++ '/' :: rest := by
  rw [rebase, String.toList_append, String.toList_ofList, h, ← String.length_toList,
    List.drop_left]

/-- Neither of two directories lies inside the other. They may be equal. -/
def Apart (a b : String) : Prop :=
  ¬ a.toList ++ ['/'] <+: b.toList ∧ ¬ b.toList ++ ['/'] <+: a.toList

instance (a b : String) : Decidable (Apart a b) := inferInstanceAs (Decidable (_ ∧ _))

/-- Of two directories that a path lies below, one lies inside the other. -/
theorem Apart.eq (h : Apart a b) {s t : List Char}
    (e : a.toList ++ '/' :: s = b.toList ++ '/' :: t) : a = b := by
  have left : a.toList ++ ['/'] <+: a.toList ++ '/' :: s := ⟨s, by simp⟩
  have right : b.toList ++ ['/'] <+: a.toList ++ '/' :: s := ⟨t, by rw [e]; simp⟩
  rcases List.prefix_or_prefix_of_prefix left right with short | short
  · rcases List.prefix_concat_iff.1 short with same | inside
    · exact String.toList_inj.1 (List.append_cancel_right same)
    · exact absurd inside h.1
  · rcases List.prefix_concat_iff.1 short with same | inside
    · exact String.toList_inj.1 (List.append_cancel_right same.symm)
    · exact absurd inside h.2

/-! ## Several moves -/

/-- Files that move at once, from the first path of a pair to the second. What was at a second path
and does not move goes. -/
def movesFate (moves : List (String × String)) : Fate := fun s =>
  match moves.lookup s.1 with
  | some new => some (new, true)
  | none => if s.1 ∈ moves.map (·.2) then none else some s

/-- **Moves that do not get in each other's way are done at once**: they come from recorded paths,
no two of them from or to the same path, and none comes from where another one leads to. -/
theorem turns_renameAll (h : c.Consistent) {moves : List (String × String)}
    (recorded : ∀ m ∈ moves, c.records m.1 = true) (sources : (moves.map (·.1)).Nodup)
    (targets : (moves.map (·.2)).Nodup)
    (apart : ∀ m ∈ moves, ∀ m' ∈ moves, m.1 = m'.2 → m = m') :
    c.Turns (moves.foldl (fun c (a, b) => c.rename a b) c) (movesFate moves) [] := by
  induction moves generalizing c with
  | nil =>
    refine turns_map h id (by simp [numbered]) rfl fun f _ => ?_
    rfl
  | cons move moves ih =>
    obtain ⟨a, b⟩ := move
    rw [List.map_cons, List.nodup_cons] at sources targets
    obtain ⟨once, sources⟩ := sources
    obtain ⟨unshared, targets⟩ := targets
    have first := turns_rename h b (recorded _ List.mem_cons_self)
    have offSource : ∀ m ∈ moves, m.1 ≠ a := fun m hm e =>
      once (List.mem_map.2 ⟨m, hm, e⟩)
    have offTarget : ∀ m ∈ moves, m.1 ≠ b := fun m hm e =>
      offSource m hm (congrArg Prod.fst
        (apart m (List.mem_cons_of_mem _ hm) (a, b) List.mem_cons_self e))
    -- The other files that move are where they were after the first move.
    have others := ih (h.rename a b) (fun m hm => ?_) sources targets fun m hm m' hm' =>
      apart m (List.mem_cons_of_mem _ hm) m' (List.mem_cons_of_mem _ hm')
    · rw [List.foldl_cons]
      refine (first.trans others).congr fun f _ => ?_
      generalize f.standing = s
      have idle : moves.lookup b = none := lookup_eq_none_of_notMem fun mem => by
        obtain ⟨m, hm, e⟩ := List.mem_map.1 mem
        exact offTarget m hm e
      show (moveFate a b s).bind (movesFate moves) = movesFate ((a, b) :: moves) s
      unfold moveFate movesFate
      rw [List.lookup_cons, List.map_cons]
      by_cases source : s.1 = a
      · simp [source, idle, unshared]
      · rw [beq_false_of_ne source, if_neg source]
        by_cases target : s.1 = b
        · simp [target, idle]
        · rw [if_neg target, Option.bind_some]
          simp only [List.mem_cons, target, false_or]
    · obtain ⟨f, hf, e⟩ := records_iff.1 (recorded m (List.mem_cons_of_mem _ hm))
      have stays : f.meet (moveFate a b) = some f := by
        rw [meet_moveFate, e, if_neg (offSource m hm), if_neg (offTarget m hm)]
      exact records_iff.2 ⟨f, first.mem_files.2 (Or.inl ⟨f, hf, stays⟩), e⟩

/-! ## Directories -/

/-- The files below a directory become missing. -/
def dirGoneFate (dir : String) : Fate := fun s => some (s.1, s.2 && !isBelow dir s.1)

theorem turns_markDirMissing (h : c.Consistent) (dir : String) :
    c.Turns (c.markDirMissing dir) (dirGoneFate dir) [] := by
  refine turns_map h _ (List.append_nil _).symm rfl fun f _ => ?_
  rw [FileRecord.meet, dirGoneFate, FileRecord.standing, Option.map_some]
  dsimp only
  split
  · simp_all
  · simp_all

/-- The moves of a directory come from paths below it and lead to the same place below the new one,
and only present files move. -/
theorem mem_dirMoves {old new : String} {move : String × String} :
    move ∈ c.dirMoves old new ↔
      (∃ f ∈ c.files, f.path = move.1 ∧ f.present = true) ∧ isBelow old move.1 = true ∧
        move.2 = rebase old new move.1 := by
  rw [dirMoves, List.mem_map]
  constructor
  · rintro ⟨f, hf, rfl⟩
    obtain ⟨hf, both⟩ := List.mem_filter.1 hf
    rw [Bool.and_eq_true] at both
    exact ⟨⟨f, hf, rfl, both.2⟩, both.1, rfl⟩
  · rintro ⟨⟨f, hf, path, present⟩, below, target⟩
    refine ⟨f, List.mem_filter.2 ⟨hf, ?_⟩, Prod.ext path ?_⟩
    · rw [path, below, present]
      rfl
    · rw [path, target]

/-- What is present below one directory moves to the same place below another one; what was at one
of the places that it moves to goes. -/
def dirMoveFate (targets : List String) (old new : String) : Fate := fun s =>
  if isBelow old s.1 && s.2 then some (rebase old new s.1, true)
  else if s.1 ∈ targets then none
  else some s

theorem dirMoves_eq_map (c : Catalog) (old new : String) :
    c.dirMoves old new =
      ((c.presentBelow old).map (·.path)).map fun path => (path, rebase old new path) := by
  rw [dirMoves, List.map_map]
  rfl

theorem lookup_dirMoves (h : c.Consistent) (old new : String) {f : FileRecord} (hf : f ∈ c.files) :
    (c.dirMoves old new).lookup f.path =
      if isBelow old f.path && f.present then some (rebase old new f.path) else none := by
  rw [dirMoves_eq_map]
  split
  · rename_i moves
    exact List.lookup_graph _ (List.mem_map_of_mem (List.mem_filter.2 ⟨hf, moves⟩))
  · rename_i stays
    refine lookup_eq_none_of_notMem fun mem => stays ?_
    rw [← dirMoves_eq_map] at mem
    obtain ⟨m, hm, path⟩ := List.mem_map.1 mem
    obtain ⟨⟨g, hg, same, present⟩, below, _⟩ := mem_dirMoves.1 hm
    rw [h.eq_of_path hf hg (path.symm.trans same.symm), present, same, below]
    rfl

/-- **The move of a directory**, if neither of the two directories lies inside the other: what is
present below the old one is at the same place below the new one, and what was there goes. -/
theorem turns_renameDir (h : c.Consistent) {old new : String} (apart : Apart old new) :
    c.Turns (c.renameDir old new)
      (dirMoveFate ((c.dirMoves old new).map (·.2)) old new) [] := by
  have sources : ((c.dirMoves old new).map (·.1)).Nodup := by
    rw [dirMoves_eq_map, List.map_map]
    exact (List.map_id _).symm ▸ h.paths_distinct.sublist (List.filter_sublist.map _)
  have below : ∀ m ∈ c.dirMoves old new, ∃ rest, m.1.toList = old.toList ++ '/' :: rest ∧
      m.2.toList = new.toList ++ '/' :: rest := by
    intro m hm
    obtain ⟨_, inside, target⟩ := mem_dirMoves.1 hm
    obtain ⟨rest, e⟩ := exists_rest_of_isBelow inside
    exact ⟨rest, e, by rw [target, toList_rebase e]⟩
  have targets : ((c.dirMoves old new).map (·.2)).Nodup := by
    -- The rest of a path is the same at both places, so two targets differ where the sources do.
    refine (List.nodup_map_iff_inj_on sources.of_map).2 fun m hm m' hm' e => ?_
    obtain ⟨rest, from₁, to₁⟩ := below m hm
    obtain ⟨rest', from₂, to₂⟩ := below m' hm'
    rw [e, to₂] at to₁
    have same := List.append_cancel_left to₁
    refine Prod.ext (String.toList_inj.1 ?_) e
    rw [from₁, from₂, same]
  refine (turns_renameAll h (fun m hm => ?_) sources targets fun m hm m' hm' e => ?_).congr
    fun f hf => ?_
  · obtain ⟨⟨f, hf, path, _⟩, _⟩ := mem_dirMoves.1 hm
    exact records_iff.2 ⟨f, hf, path⟩
  · -- A path below both directories is one below the same directory.
    obtain ⟨rest, from₁, to₁⟩ := below m hm
    obtain ⟨rest', from₂, to₂⟩ := below m' hm'
    rw [e, to₂] at from₁
    obtain rfl := apart.eq from₁.symm
    have still : m'.1 = m'.2 := String.toList_inj.1 (from₂.trans to₂.symm)
    exact List.inj_on_of_nodup_map sources hm hm' (e.trans still.symm)
  · rw [movesFate, dirMoveFate, FileRecord.standing]
    dsimp only
    rw [lookup_dirMoves h old new hf]
    cases isBelow old f.path && f.present <;> rfl

end Catalog

/-! ## Changes -/

namespace Change

open Catalog

/-- What becomes of the files by a change. -/
def fate (c : Catalog) (e : Change) : Fate :=
  match e.kind, e.dest? with
  | .created, _ => markFate e.path true
  | .deleted, _ => markFate e.path false
  | .moved, some dest => if c.records e.path then moveFate e.path dest else markFate dest true
  | .dirDeleted, _ => dirGoneFate e.path
  | .dirMoved, some dest => dirMoveFate ((c.dirMoves e.path dest).map (·.2)) e.path dest
  | .moved, none => some
  | .dirMoved, none => some

/-- The paths that a change records anew. -/
def arrivals (c : Catalog) (e : Change) : List String :=
  match e.kind, e.dest? with
  | .created, _ => if c.records e.path then [] else [e.path]
  | .moved, some dest => if c.records e.path || c.records dest then [] else [dest]
  | _, _ => []

/-- A change that moves no directory into itself or to one that it lies in. -/
def IsApart (e : Change) : Prop := e.kind = .dirMoved → ∀ dest ∈ e.dest?, Apart e.path dest

instance (e : Change) : Decidable e.IsApart := inferInstanceAs (Decidable (_ → _))

end Change

namespace Catalog

/-- **What a change does to the tables.** -/
theorem turns_step {c : Catalog} (h : c.Consistent) {e : Change} (apart : e.IsApart) :
    c.Turns (c.step e).1 (e.fate c) (e.arrivals c) := by
  have still : c.Turns c some [] := turns_map h id (by simp [numbered]) rfl fun _ _ => rfl
  obtain ⟨kind, path, dest?⟩ := e
  cases kind with
  | created => exact turns_place h path
  | deleted => exact turns_markMissing h path
  | dirDeleted => exact turns_markDirMissing h path
  | moved =>
    cases dest? with
    | none => exact still
    | some dest =>
      show c.Turns (c.rename path dest) (if _ then _ else _) (if _ then _ else _)
      cases recorded : c.records path with
      | true => exact turns_rename h dest recorded
      | false => exact turns_rename_unknown h dest recorded
  | dirMoved =>
    cases dest? with
    | none => exact still
    | some dest => exact turns_renameDir h (apart rfl dest rfl)

end Catalog

end TagSearch
