import TagSearch.Proofs.Catalog.Present

/-!
# Changes that alter the tables, and changes that repeat them

A change alters the tables if some row of the files or of the tags comes, goes or becomes another
one. All such changes count. Of the others those count that say once more what is recorded already,
such as the creation of a file that is present.

* `Catalog.KeepsRows`: no row of the files or of the tags is another one.
* `Change.Repeats`: a change says what is recorded already.
* `Catalog.not_keepsRows_renameDir`: a directory that moves elsewhere takes some row along.
* `Catalog.counts_iff`: a change counts if it alters the tables or repeats them.
* `Session.count_eq_alterations_add_repetitions`: the count of a list of changes.
-/

namespace TagSearch

namespace Catalog

variable {c d : Catalog} {path old new : String}

/-! ## Rows -/

/-- No row of the files or of the tags comes, goes or becomes another one. -/
def KeepsRows (c d : Catalog) : Prop :=
  (c.files ⊆ d.files ∧ d.files ⊆ c.files) ∧ c.tags ⊆ d.tags ∧ d.tags ⊆ c.tags

instance (c d : Catalog) : Decidable (KeepsRows c d) :=
  inferInstanceAs (Decidable ((_ ∧ _) ∧ _ ∧ _))

theorem KeepsRows.refl (c : Catalog) : c.KeepsRows c :=
  ⟨⟨List.Subset.refl _, List.Subset.refl _⟩, List.Subset.refl _, List.Subset.refl _⟩

theorem KeepsRows.mem_presentPaths (h : c.KeepsRows d) :
    path ∈ c.presentPaths ↔ path ∈ d.presentPaths := by
  rw [Catalog.mem_presentPaths, Catalog.mem_presentPaths]
  exact ⟨fun mem => List.map_subset _ h.1.1 mem, fun mem => List.map_subset _ h.1.2 mem⟩

theorem KeepsRows.records_eq (h : c.KeepsRows d) (path : String) :
    c.records path = d.records path := by
  rw [Bool.eq_iff_iff, records_iff, records_iff]
  exact ⟨fun ⟨f, hf, e⟩ => ⟨f, h.1.1 hf, e⟩, fun ⟨f, hf, e⟩ => ⟨f, h.1.2 hf, e⟩⟩

theorem KeepsRows.perm (h : c.KeepsRows d) (left : c.Consistent) (right : d.Consistent) :
    c.files.Perm d.files :=
  (List.perm_ext_iff_of_nodup left.files_nodup right.files_nodup).2
    fun _ => ⟨fun mem => h.1.1 mem, fun mem => h.1.2 mem⟩

/-! ## Changes that say what is recorded -/

/-- A file that is changed to what it is. -/
theorem update_eq_self {id : Int} {g : FileRecord → FileRecord}
    (same : ∀ r ∈ c.files, r.id = id → g r = r) : c.update id g = c := by
  have rows : (c.files.map fun r => if r.id = id then g r else r) = c.files := by
    refine (List.map_congr_left fun r hr => ?_).trans (List.map_id _)
    split
    · exact same r hr ‹_›
    · rfl
  rw [update, rows]

theorem exists_of_mem_presentPaths (h : c.Consistent) (present : path ∈ c.presentPaths) :
    ∃ f ∈ c.files, f.path = path ∧ f.present = true ∧ c.find? path = some f := by
  obtain ⟨f, hf, rfl⟩ := List.mem_map.1 present
  obtain ⟨hf, here⟩ := List.mem_filter.1 hf
  refine ⟨f, hf, rfl, here, ?_⟩
  cases found : c.find? f.path with
  | none => exact absurd rfl (find?_eq_none_iff.1 found f hf)
  | some g =>
    obtain ⟨hg, same⟩ := mem_of_find? found
    rw [h.eq_of_path hg hf same]

theorem place_of_present (h : c.Consistent) (present : path ∈ c.presentPaths) :
    c.place path = c := by
  obtain ⟨f, hf, rfl, here, found⟩ := exists_of_mem_presentPaths h present
  rw [place, found]
  refine update_eq_self fun r hr same => ?_
  rw [h.eq_of_id hr hf same, ← here]

theorem markMissing_of_missing (h : c.Consistent)
    (missing : (path, false) ∈ c.files.map (·.standing)) : c.markMissing path = c := by
  obtain ⟨f, hf, e⟩ := List.mem_map.1 missing
  obtain ⟨rfl, gone⟩ := Prod.mk.inj e
  rw [markMissing]
  cases found : c.find? f.path with
  | none => rfl
  | some g =>
    obtain ⟨hg, same⟩ := mem_of_find? found
    refine update_eq_self fun r hr number => ?_
    rw [h.eq_of_id hr hg number, h.eq_of_path hg hf same, ← gone]

theorem rename_self_of_present (h : c.Consistent) (present : path ∈ c.presentPaths) :
    c.rename path path = c := by
  obtain ⟨f, hf, rfl, here, found⟩ := exists_of_mem_presentPaths h present
  rw [rename, found]
  dsimp only
  rw [if_pos rfl]
  refine update_eq_self fun r hr same => ?_
  rw [h.eq_of_id hr hf same, ← here]

theorem rebase_self (below : isBelow old path = true) : rebase old old path = path := by
  obtain ⟨rest, e⟩ := exists_rest_of_isBelow below
  exact String.toList_inj.1 ((toList_rebase e old).trans e.symm)

theorem renameDir_self (h : c.Consistent) (dir : String) : c.renameDir dir dir = c := by
  have still : ∀ m ∈ c.dirMoves dir dir, m.1 ∈ c.presentPaths ∧ m.2 = m.1 := by
    intro m hm
    obtain ⟨⟨f, hf, source, present⟩, below, target⟩ := mem_dirMoves.1 hm
    refine ⟨?_, target.trans (rebase_self below)⟩
    rw [← source]
    exact List.mem_map_of_mem (List.mem_filter.2 ⟨hf, present⟩)
  rw [renameDir]
  generalize c.dirMoves dir dir = moves at still
  induction moves with
  | nil => rfl
  | cons m moves ih =>
    obtain ⟨a, b⟩ := m
    obtain ⟨present, rfl⟩ : a ∈ c.presentPaths ∧ b = a := still _ List.mem_cons_self
    show moves.foldl _ (c.rename b b) = c
    rw [rename_self_of_present h present]
    exact ih fun m hm => still m (List.mem_cons_of_mem _ hm)

/-! ## Directories that move elsewhere -/

/-- The length of all recorded paths together. -/
def pathsLength (c : Catalog) : Nat := (c.files.map (·.path.length)).sum

/-- A move leaves the other recorded paths recorded. -/
theorem records_rename (h : c.Consistent) (recorded : c.records old = true)
    (other : path ≠ old) (known : c.records path = true) :
    (c.rename old new).records path = true := by
  have turns := turns_rename h new recorded
  rw [records_iff] at recorded known ⊢
  by_cases reached : path = new
  · obtain ⟨f, hf, rfl⟩ := recorded
    refine ⟨{ f with path := new, present := true }, turns.mem_files.2 (Or.inl ⟨f, hf, ?_⟩),
      reached.symm⟩
    rw [meet_moveFate, if_pos rfl]
  · obtain ⟨f, hf, rfl⟩ := known
    refine ⟨f, turns.mem_files.2 (Or.inl ⟨f, hf, ?_⟩), rfl⟩
    rw [meet_moveFate, if_neg other, if_neg reached]

/-- A recorded file that moves is present where it moves to. -/
theorem mem_presentPaths_rename_new (h : c.Consistent) (recorded : c.records old = true) :
    new ∈ (c.rename old new).presentPaths := by
  obtain ⟨f, hf, rfl⟩ := records_iff.1 recorded
  exact (turns_rename h new recorded).mem_presentPaths.2
    (Or.inl ⟨_, List.mem_map_of_mem hf, if_pos rfl⟩)

/-- Where a recorded file moves away from nothing is recorded. -/
theorem records_rename_old (h : c.Consistent) (recorded : c.records old = true)
    (elsewhere : new ≠ old) : (c.rename old new).records old = false := by
  rw [← Bool.not_eq_true, records_iff]
  rintro ⟨g, hg, there⟩
  rcases (turns_rename h new recorded).mem_files.1 hg with ⟨f, _, met⟩ | mem
  · rw [meet_moveFate] at met
    split at met
    · exact elsewhere ((congrArg (·.path) (Option.some.inj met)).trans there)
    · rename_i other
      split at met
      · cases met
      · obtain rfl := Option.some.inj met
        exact other there
  · cases mem

/-- The move of a recorded file takes a row away, or it keeps their number and makes the recorded
paths longer by as much as the path of the file gets longer. -/
theorem length_rename (h : c.Consistent) (new : String) (recorded : c.records old = true) :
    (c.rename old new).files.length < c.files.length ∨
      (c.rename old new).files.length = c.files.length ∧
        (c.rename old new).pathsLength + old.length = c.pathsLength + new.length := by
  have files := (turns_rename h new recorded).files
  rw [numbered, List.append_nil] at files
  obtain ⟨f, hf, rfl⟩ := records_iff.1 recorded
  by_cases taken : ∃ g ∈ c.files, g.path = new ∧ g.path ≠ f.path
  · obtain ⟨g, hg, rfl, apart⟩ := taken
    refine Or.inl ?_
    rw [files, List.length_filterMap_lt_length_iff_exists]
    exact ⟨g, hg, by rw [meet_moveFate, if_neg apart, if_pos rfl]⟩
  · -- The row of the file gets the new path, and the others stay.
    let moved (r : FileRecord) := if r.path = f.path then { r with path := new, present := true }
      else r
    have rows : (c.rename f.path new).files = c.files.map moved := by
      rw [files, ← List.filterMap_eq_map]
      refine List.filterMap_congr fun r hr => ?_
      rw [meet_moveFate]
      by_cases here : r.path = f.path
      · simp [moved, here]
      · have free : r.path ≠ new := fun e => taken ⟨r, hr, e, here⟩
        simp [moved, here, free]
    have others : ((c.files.erase f).map moved) = c.files.erase f := by
      refine (List.map_congr_left fun r hr => ?_).trans (List.map_id _)
      obtain ⟨ne, hr⟩ := (h.files_nodup.mem_erase_iff).1 hr
      exact if_neg fun e => ne (h.eq_of_path hr hf e)
    have split := List.perm_cons_erase hf
    refine Or.inr ⟨by rw [rows, List.length_map], ?_⟩
    rw [pathsLength, pathsLength, rows, ((split.map moved).map _).sum_eq, (split.map _).sum_eq]
    simp only [List.map_cons, others, List.sum_cons, moved, if_pos]
    omega

/-- Moves from different recorded paths, one after the other. -/
theorem length_renameAll (h : c.Consistent) {moves : List (String × String)}
    (recorded : ∀ m ∈ moves, c.records m.1 = true) (sources : (moves.map (·.1)).Nodup) :
    let d := moves.foldl (fun c (a, b) => c.rename a b) c
    d.files.length < c.files.length ∨
      d.files.length = c.files.length ∧
        d.pathsLength + (moves.map (·.1.length)).sum =
          c.pathsLength + (moves.map (·.2.length)).sum := by
  induction moves generalizing c with
  | nil => exact Or.inr ⟨rfl, rfl⟩
  | cons m moves ih =>
    obtain ⟨a, b⟩ := m
    rw [List.map_cons, List.nodup_cons] at sources
    have here : c.records a = true := recorded _ List.mem_cons_self
    have later : ∀ m ∈ moves, (c.rename a b).records m.1 = true := fun m hm =>
      records_rename h here (fun e => sources.1 (List.mem_map.2 ⟨m, hm, e⟩))
        (recorded m (List.mem_cons_of_mem _ hm))
    have first := length_rename h b here
    have rest := ih (h.rename a b) later sources.2
    simp only [List.foldl_cons, List.map_cons, List.sum_cons] at rest ⊢
    omega

/-- **A directory that moves elsewhere takes some row along**, also if one of the two directories
lies inside the other. -/
theorem not_keepsRows_renameDir (h : c.Consistent) (elsewhere : old ≠ new)
    (some : (c.presentBelow old).isEmpty = false) : ¬ c.KeepsRows (c.renameDir old new) := by
  intro keeps
  obtain ⟨f, hf⟩ := List.exists_mem_of_ne_nil _ (List.isEmpty_eq_false_iff.1 some)
  by_cases same : old.length = new.length
  · -- Directories of the same length are apart, so that the file is now at another path.
    have apart : Apart old new := by
      constructor <;> intro inside <;>
        · have := inside.length_le
          simp only [List.length_append, List.length_singleton, String.length_toList] at this
          omega
    obtain ⟨hf, both⟩ := List.mem_filter.1 hf
    rw [Bool.and_eq_true] at both
    have present : f.path ∈ c.presentPaths :=
      List.mem_map_of_mem (List.mem_filter.2 ⟨hf, both.2⟩)
    rcases (mem_presentPaths_renameDir h apart).1 (keeps.mem_presentPaths.1 present) with
      ⟨_, outside⟩ | ⟨p, _, below, target⟩
    · exact outside both.1
    · obtain ⟨rest, from'⟩ := exists_rest_of_isBelow both.1
      obtain ⟨rest', e⟩ := exists_rest_of_isBelow below
      rw [target, toList_rebase e] at from'
      exact elsewhere (apart.eq from'.symm)
  · -- Otherwise every move makes the recorded paths longer, or every move makes them shorter.
    have sources : ((c.dirMoves old new).map (·.1)).Nodup := by
      rw [dirMoves_eq_map, List.map_map]
      exact (List.map_id _).symm ▸ h.paths_distinct.sublist (List.filter_sublist.map _)
    have shift : ∀ m ∈ c.dirMoves old new, m.2.length + old.length = m.1.length + new.length := by
      intro m hm
      obtain ⟨_, below, target⟩ := mem_dirMoves.1 hm
      obtain ⟨rest, e⟩ := exists_rest_of_isBelow below
      have left := congrArg List.length e
      have right := congrArg List.length (toList_rebase e new)
      rw [← target] at right
      simp only [List.length_append, String.length_toList] at left right
      omega
    have sums := congrArg List.sum (List.map_congr_left shift)
    simp only [List.sum_map_add, List.map_const', List.sum_replicate, smul_eq_mul] at sums
    have order := keeps.perm h (h.renameDir old new)
    have rows := order.length_eq
    have lengths := (order.map (·.path.length)).sum_eq
    have recorded : ∀ m ∈ c.dirMoves old new, c.records m.1 = true := fun m hm => by
      obtain ⟨⟨g, hg, source, _⟩, _⟩ := mem_dirMoves.1 hm
      exact records_iff.2 ⟨g, hg, source⟩
    have moved := length_renameAll h recorded sources
    simp only [renameDir, pathsLength] at rows lengths moved
    have equal : (c.dirMoves old new).length * old.length =
        (c.dirMoves old new).length * new.length := by omega
    have several : 0 < (c.dirMoves old new).length := by
      rw [dirMoves, List.length_map]
      exact List.length_pos_of_mem hf
    exact same (Nat.eq_of_mul_eq_mul_left several equal)

end Catalog

/-! ## Changes that count -/

namespace Change

open Catalog

/-- A change alters some row of the files or of the tags. -/
def Alters (e : Change) (c : Catalog) : Prop := ¬ c.KeepsRows (c.step e).1

instance (e : Change) (c : Catalog) : Decidable (e.Alters c) := inferInstanceAs (Decidable (¬ _))

/-- A change says what is recorded already: that a file is there which is present, that a file went
which is missing, or that a file or a directory moved to where it is. The move of a path that is not
recorded says that a file is at the new path. -/
def Repeats (e : Change) (c : Catalog) : Prop :=
  match e.kind, e.dest? with
  | .created, _ => e.path ∈ c.presentPaths
  | .deleted, _ => (e.path, false) ∈ c.files.map (·.standing)
  | .moved, some dest => dest ∈ c.presentPaths ∧ (dest = e.path ∨ c.records e.path = false)
  | .dirMoved, some dest => dest = e.path ∧ (c.presentBelow e.path).isEmpty = false
  | .dirDeleted, _ | .moved, none | .dirMoved, none => False

instance (e : Change) (c : Catalog) : Decidable (e.Repeats c) :=
  match e with
  | ⟨.created, _, _⟩ => inferInstanceAs (Decidable (_ ∈ _))
  | ⟨.deleted, _, _⟩ => inferInstanceAs (Decidable (_ ∈ _))
  | ⟨.moved, _, some _⟩ => inferInstanceAs (Decidable (_ ∧ (_ ∨ _)))
  | ⟨.dirMoved, _, some _⟩ => inferInstanceAs (Decidable (_ ∧ _))
  | ⟨.dirDeleted, _, _⟩ | ⟨.moved, _, none⟩ | ⟨.dirMoved, _, none⟩ => .isFalse not_false

end Change

namespace Catalog

variable {c : Catalog} {e : Change}

/-- **A change that repeats what is recorded changes nothing.** -/
theorem step_of_repeats (h : c.Consistent) (repeats : e.Repeats c) : (c.step e).1 = c := by
  obtain ⟨kind, path, dest?⟩ := e
  cases kind with
  | created => exact place_of_present h repeats
  | deleted => exact markMissing_of_missing h repeats
  | dirDeleted => exact repeats.elim
  | moved =>
    cases dest? with
    | none => exact repeats.elim
    | some dest =>
      obtain ⟨present, rfl | unknown⟩ := repeats
      · exact rename_self_of_present h present
      · show c.rename path dest = c
        rw [rename, find?_of_unknown unknown]
        exact place_of_present h present
  | dirMoved =>
    cases dest? with
    | none => exact repeats.elim
    | some dest =>
      obtain ⟨rfl, _⟩ := repeats
      exact renameDir_self h dest

/-- **Every other change that counts alters some row.** -/
theorem alters_of_counts (h : c.Consistent) (counts : (c.step e).2 = true)
    (tellsNew : ¬ e.Repeats c) : e.Alters c := by
  intro keeps
  obtain ⟨kind, path, dest?⟩ := e
  cases kind with
  | created =>
    exact tellsNew (keeps.mem_presentPaths.2 ((mem_presentPaths_place h path).2 (Or.inr rfl)))
  | deleted =>
    obtain ⟨f, hf, rfl⟩ := records_iff.1 counts
    cases present : f.present with
    | false => exact tellsNew (List.mem_map.2 ⟨f, hf, Prod.ext rfl present⟩)
    | true =>
      have here : f.path ∈ c.presentPaths := List.mem_map_of_mem (List.mem_filter.2 ⟨hf, present⟩)
      exact ((mem_presentPaths_markMissing h f.path).1 (keeps.mem_presentPaths.1 here)).2 rfl
  | dirDeleted =>
    rw [step, Bool.not_eq_true'] at counts
    obtain ⟨f, hf⟩ := List.exists_mem_of_ne_nil _ (List.isEmpty_eq_false_iff.1 counts)
    obtain ⟨hf, both⟩ := List.mem_filter.1 hf
    rw [Bool.and_eq_true] at both
    have here : f.path ∈ c.presentPaths := List.mem_map_of_mem (List.mem_filter.2 ⟨hf, both.2⟩)
    exact ((mem_presentPaths_markDirMissing h path).1 (keeps.mem_presentPaths.1 here)).2 both.1
  | moved =>
    cases dest? with
    | none => cases counts
    | some dest =>
      replace keeps : c.KeepsRows (c.rename path dest) := keeps
      cases recorded : c.records path with
      | false =>
        rw [rename, find?_of_unknown recorded] at keeps
        have arrived := (mem_presentPaths_place h dest).2 (Or.inr rfl)
        exact tellsNew ⟨keeps.mem_presentPaths.2 arrived, Or.inr recorded⟩
      | true =>
        have arrived := keeps.mem_presentPaths.2 (mem_presentPaths_rename_new h recorded)
        by_cases same : dest = path
        · exact tellsNew ⟨arrived, Or.inl same⟩
        · -- No file is left at the old path.
          have gone := records_rename_old h recorded same
          rw [← keeps.records_eq, recorded] at gone
          cases gone
  | dirMoved =>
    cases dest? with
    | none => cases counts
    | some dest =>
      rw [step, Bool.not_eq_true'] at counts
      exact not_keepsRows_renameDir h (fun same => tellsNew ⟨same.symm, counts⟩) counts keeps

theorem counts_of_repeats (repeats : e.Repeats c) : (c.step e).2 = true := by
  obtain ⟨kind, path, dest?⟩ := e
  cases kind with
  | created => rfl
  | deleted =>
    obtain ⟨f, hf, standing⟩ := List.mem_map.1 repeats
    exact records_iff.2 ⟨f, hf, congrArg Prod.fst standing⟩
  | dirDeleted => exact repeats.elim
  | moved =>
    cases dest? with
    | none => exact repeats.elim
    | some dest => rfl
  | dirMoved =>
    cases dest? with
    | none => exact repeats.elim
    | some dest => exact congrArg not repeats.2

theorem not_alters_of_repeats (h : c.Consistent) (repeats : e.Repeats c) : ¬ e.Alters c := by
  rw [Change.Alters, step_of_repeats h repeats, not_not]
  exact .refl c

/-- **A change counts if it alters the tables or repeats what is recorded.** -/
theorem counts_iff (h : c.Consistent) :
    (c.step e).2 = true ↔ e.Alters c ∨ e.Repeats c := by
  constructor
  · intro counts
    by_cases repeats : e.Repeats c
    · exact Or.inr repeats
    · exact Or.inl (alters_of_counts h counts repeats)
  · rintro (alters | repeats)
    · by_contra uncounted
      rw [Change.Alters, step_of_not_counted (Bool.not_eq_true _ ▸ uncounted)] at alters
      exact alters (.refl c)
    · exact counts_of_repeats repeats

/-- A change alters no row only if it leaves all tables as they are. -/
theorem not_alters_iff (h : c.Consistent) : ¬ e.Alters c ↔ (c.step e).1 = c := by
  constructor
  · intro keeps
    cases counts : (c.step e).2 with
    | false => exact step_of_not_counted counts
    | true => exact step_of_repeats h (((counts_iff h).1 counts).resolve_left keeps)
  · intro same
    rw [Change.Alters, same, not_not]
    exact .refl c

/-! ## Lists of changes -/

/-- Changes that are applied in order, each with the tables that it meets. -/
def inTurn (c : Catalog) : List Change → List (Catalog × Change)
  | [] => []
  | e :: events => (c, e) :: (c.step e).1.inTurn events

theorem consistent_of_mem_inTurn (h : c.Consistent) {events : List Change} {m : Catalog × Change}
    (mem : m ∈ c.inTurn events) : m.1.Consistent := by
  induction events generalizing c with
  | nil => cases mem
  | cons e events ih =>
    rcases List.mem_cons.1 mem with rfl | mem
    · exact h
    · exact ih (h.step e) mem

/-- The count of changes is the number of those that alter the tables, and of those that repeat
them. -/
theorem steps_count (h : c.Consistent) (events : List Change) :
    (c.steps events).2 =
      (c.inTurn events).countP (fun m => m.2.Alters m.1) +
        (c.inTurn events).countP (fun m => m.2.Repeats m.1) := by
  induction events generalizing c with
  | nil => rfl
  | cons e events ih =>
    have one : (if (c.step e).2 then 1 else 0) =
        (if e.Alters c then 1 else 0) + if e.Repeats c then 1 else 0 := by
      by_cases repeats : e.Repeats c
      · rw [counts_of_repeats repeats, if_neg (not_alters_of_repeats h repeats), if_pos repeats]
        rfl
      · simp only [counts_iff h, repeats, or_false, if_false, Nat.add_zero]
    rw [steps_cons, ih (h.step e), one, inTurn, List.countP_cons, List.countP_cons]
    simp only [decide_eq_true_eq]
    omega

end Catalog

namespace Session

open Catalog

variable {s : Session}

/-- **The count of a list of changes** is the number of the changes that alter some row of the files
or of the tags when their turn comes, and of those that repeat what is recorded then. A change that
alters no row leaves all tables as they are. So the count is the number of changes that alter the
tables exactly if none of them repeats what is recorded. -/
theorem count_eq_alterations_add_repetitions (h : s.catalog.Consistent) (events : List Change) :
    let turns := s.catalog.inTurn events
    let alterations := turns.countP fun m => m.2.Alters m.1
    let repetitions := turns.countP fun m => m.2.Repeats m.1
    (s.applyChanges events).2 = alterations + repetitions ∧
    (∀ m ∈ turns, (¬ m.2.Alters m.1 ↔ (m.1.step m.2).1 = m.1) ∧
      (m.2.Repeats m.1 → ¬ m.2.Alters m.1)) ∧
    ((s.applyChanges events).2 = alterations ↔ ∀ m ∈ turns, ¬ m.2.Repeats m.1) := by
  intro turns alterations repetitions
  have count : (s.applyChanges events).2 = alterations + repetitions := steps_count h events
  refine ⟨count, fun m mem => ?_, ?_⟩
  · have consistent := consistent_of_mem_inTurn h mem
    exact ⟨not_alters_iff consistent, not_alters_of_repeats consistent⟩
  · rw [count, Nat.add_eq_left, List.countP_eq_zero]
    simp only [decide_eq_true_eq]

/-- A directory that moves into the one around it takes the place of a file, after three changes
that repeat what is recorded; then a file moves that is not recorded. -/
theorem count_eq_alterations_add_repetitions_nested :
    let s := fresh.run [.place "d/x", .place "d/e/x", .place "y", .markMissing "y"]
    let events : List Change := [⟨.created, "d/x", none⟩, ⟨.deleted, "y", none⟩,
      ⟨.dirMoved, "d", some "d"⟩, ⟨.dirMoved, "d/e", some "d"⟩, ⟨.dirDeleted, "d/e", none⟩,
      ⟨.moved, "z", some "d/x"⟩, ⟨.moved, "d/x", some "y"⟩]
    let turns := s.catalog.inTurn events
    s.catalog.Consistent ∧
    (s.applyChanges events).2 =
      turns.countP (fun m => m.2.Alters m.1) + turns.countP (fun m => m.2.Repeats m.1) ∧
    (turns.map fun m => (decide (m.2.Alters m.1), decide (m.2.Repeats m.1))) =
      [(false, true), (false, true), (false, true), (true, false), (false, false), (false, true),
        (true, false)] ∧
    (s.applyChanges events).1.catalog.files = [⟨2, "y", true⟩] := by
  intro s events turns
  have consistent : s.catalog.Consistent := (consistent_run _).1
  exact ⟨consistent, (count_eq_alterations_add_repetitions consistent events).1,
    by decide +kernel, by decide +kernel⟩

/-- **A change that alters nothing may count**: the creation of a file that is present. -/
theorem creation_of_present_file_counts :
    let s := fresh.run [.place "x"]
    let events : List Change := [⟨.created, "x", none⟩]
    s.catalog.Consistent ∧ (s.applyChanges events).1.catalog.files = s.catalog.files ∧
    (s.applyChanges events).1.catalog.tags = s.catalog.tags ∧ (s.applyChanges events).2 = 1 ∧
    (s.catalog.inTurn events).countP (fun m => m.2.Alters m.1) = 0 :=
  ⟨(consistent_run _).1, by decide +kernel, by decide +kernel, by decide +kernel, by decide +kernel⟩

end Session

end TagSearch
