import TagSearch.Proofs.Catalog.Directories
import TagSearch.Proofs.Catalog.Paths

/-!
# Files that move

The move of one file and the move of a directory do the same to the tables: some files get other
paths, all at once and with their tags, what was at these paths goes, and nothing else changes.

* `Catalog.MovedAtOnce` says this of two tables, and `Turns.movedAtOnce` reads it off a fate.
* `Catalog.rename_moves_one`: the move of one path, recorded or not.
* `Catalog.isBelow_iff` and `isBelow_of_nul`: the paths below a directory.
* `Session.renameDir_moves_at_once`: the move of a directory, one file after the other, is one
  simultaneous move.
-/

namespace TagSearch

namespace Catalog

variable {c d : Catalog} {fate : Fate} {added : List String} {f g : FileRecord}
  {old new path : String}

/-- The tables are those after files moved at once; `moves f path` says that a file moves, and to
which path. -/
structure MovedAtOnce (c d : Catalog) (moves : FileRecord → String → Prop) : Prop where
  /-- A file that moves is present at its new path, with its number and its tags. -/
  moved : ∀ f ∈ c.files, ∀ path, moves f path →
    { f with path, present := true } ∈ d.files ∧ ∀ tag, (f.id, tag) ∈ d.tags ↔ (f.id, tag) ∈ c.tags
  /-- Another file at a path that some file moves to goes, with its tags. -/
  replaced : ∀ f ∈ c.files, (∀ path, ¬ moves f path) → (∃ g ∈ c.files, moves g f.path) →
    (∀ g ∈ d.files, g.id ≠ f.id) ∧ ∀ tag, (f.id, tag) ∉ d.tags
  /-- Every other file stays as it is, with its tags. -/
  stayed : ∀ f ∈ c.files, (∀ path, ¬ moves f path) → (¬ ∃ g ∈ c.files, moves g f.path) →
    f ∈ d.files ∧ ∀ tag, (f.id, tag) ∈ d.tags ↔ (f.id, tag) ∈ c.tags
  /-- No file is added. -/
  ids : (d.files.map (·.id)).Sublist (c.files.map (·.id))
  /-- No tag is added. -/
  tags : d.tags.Sublist c.tags
  tokens : d.tokens = c.tokens
  state : d.state = c.state

/-! ## Moves and fates -/

/-- A file that does not go has the tags that it had. -/
theorem Turns.mem_tags_of_meet (turns : c.Turns d fate added) (hf : f ∈ c.files)
    (met : f.meet fate = some g) (tag : String) :
    (f.id, tag) ∈ d.tags ↔ (f.id, tag) ∈ c.tags := by
  rw [turns.mem_tags, and_iff_left]
  exact ⟨f, hf, rfl, by rw [(FileRecord.meet_eq_some_iff.1 met).1]; rfl⟩

/-- Of a file that goes nothing is left. -/
theorem Turns.gone (h : c.Consistent) (turns : c.Turns d fate []) (hf : f ∈ c.files)
    (goes : f.meet fate = none) : (∀ g ∈ d.files, g.id ≠ f.id) ∧ ∀ tag, (f.id, tag) ∉ d.tags := by
  constructor
  · intro g hg same
    rcases turns.mem_files.1 hg with ⟨r, hr, met⟩ | none
    · have owner := (FileRecord.meet_eq_some_iff.1 met).2
      rw [h.eq_of_id hr hf (owner.symm.trans same), goes] at met
      cases met
    · cases none
  · intro tag mem
    obtain ⟨_, r, hr, owner, stays⟩ := turns.mem_tags.1 mem
    rw [h.eq_of_id hr hf owner, Option.map_eq_none_iff.1 goes] at stays
    cases stays

theorem Turns.ids_sublist (turns : c.Turns d fate []) :
    (d.files.map (·.id)).Sublist (c.files.map (·.id)) := by
  have ids : d.files.map (·.id) = (c.files.filter fun f => (f.meet fate).isSome).map (·.id) := by
    rw [turns.files, numbered, List.append_nil, List.map_filterMap, ← List.filterMap_eq_map,
      List.filterMap_filter]
    refine List.filterMap_congr fun f _ => ?_
    cases met : f.meet fate with
    | none => rfl
    | some g => exact congrArg some (FileRecord.meet_eq_some_iff.1 met).2
  rw [ids]
  exact List.filter_sublist.map _

/-- **Files that meet the fate of a move have moved at once.** -/
theorem Turns.movedAtOnce (h : c.Consistent) (turns : c.Turns d fate [])
    {moves : FileRecord → String → Prop}
    (moved : ∀ f ∈ c.files, ∀ path, moves f path →
      f.meet fate = some { f with path, present := true })
    (replaced : ∀ f ∈ c.files, (∀ path, ¬ moves f path) → (∃ g ∈ c.files, moves g f.path) →
      f.meet fate = none)
    (stayed : ∀ f ∈ c.files, (∀ path, ¬ moves f path) → (¬ ∃ g ∈ c.files, moves g f.path) →
      f.meet fate = some f)
    (rest : d.tokens = c.tokens ∧ d.state = c.state) : c.MovedAtOnce d moves where
  moved f hf path goes :=
    have met := moved f hf path goes
    ⟨turns.mem_files.2 (Or.inl ⟨f, hf, met⟩), turns.mem_tags_of_meet hf met⟩
  replaced f hf still taken := turns.gone h hf (replaced f hf still taken)
  stayed f hf still free :=
    have met := stayed f hf still free
    ⟨turns.mem_files.2 (Or.inl ⟨f, hf, met⟩), turns.mem_tags_of_meet hf met⟩
  ids := turns.ids_sublist
  tags := turns.tags ▸ List.filter_sublist
  tokens := rest.1
  state := rest.2

/-- A move changes files and tags only. -/
theorem rename_rest (c : Catalog) (old new : String) :
    (c.rename old new).tokens = c.tokens ∧ (c.rename old new).state = c.state := by
  rw [rename]
  cases c.find? old with
  | none =>
    dsimp only
    rw [place]
    cases c.find? new <;> exact ⟨rfl, rfl⟩
  | some f =>
    cases c.find? new with
    | none => exact ⟨rfl, rfl⟩
    | some g =>
      dsimp only
      split <;> exact ⟨rfl, rfl⟩

theorem renameDir_rest (c : Catalog) (old new : String) :
    (c.renameDir old new).tokens = c.tokens ∧ (c.renameDir old new).state = c.state := by
  rw [renameDir]
  generalize c.dirMoves old new = moves
  induction moves generalizing c with
  | nil => exact ⟨rfl, rfl⟩
  | cons move moves ih =>
    obtain ⟨tokens, state⟩ := c.rename_rest move.1 move.2
    obtain ⟨tokens', state'⟩ := ih (c.rename move.1 move.2)
    exact ⟨tokens'.trans tokens, state'.trans state⟩

/-! ## One file -/

theorem rename_of_unknown (unknown : c.records old = false) (new : String) :
    c.rename old new = c.place new := by
  rw [rename, find?_of_unknown unknown]

theorem place_of_unknown (unknown : c.records path = false) :
    c.place path = { c with files := c.files ++ [⟨c.nextId, path, true⟩] } := by
  rw [place, find?_of_unknown unknown]
  rfl

theorem place_of_recorded (h : c.Consistent) (recorded : c.records path = true) :
    c.place path = { c with
      files := c.files.map fun f => if f.path = path then { f with present := true } else f } := by
  obtain ⟨g, found⟩ := Option.isSome_iff_exists.1 recorded
  obtain ⟨hg, rfl⟩ := mem_of_find? found
  rw [place, found]
  dsimp only
  rw [update, List.map_congr_left fun f hf => ?_]
  simp only [h.id_eq_iff hf hg]

/-- The number for the next file is that of no file and of no tag. -/
theorem Consistent.nextId_unused (h : c.Consistent) :
    (∀ f ∈ c.files, f.id ≠ c.nextId) ∧ ∀ tag, (c.nextId, tag) ∉ c.tags := by
  have unused : ∀ f ∈ c.files, f.id ≠ c.nextId := fun f hf => Int.ne_of_lt (id_lt_nextId hf)
  refine ⟨unused, fun tag mem => ?_⟩
  obtain ⟨f, hf, owner⟩ := h.tags_recorded _ mem
  exact unused f hf owner

/-- A file that moves away leaves its path. -/
theorem records_rename_self (h : c.Consistent) (recorded : c.records old = true)
    (apart : old ≠ new) : (c.rename old new).records old = false := by
  rw [← Bool.not_eq_true, records_iff]
  rintro ⟨g, hg, here⟩
  rcases (turns_rename h new recorded).mem_files.1 hg with ⟨f, hf, met⟩ | added
  · rw [meet_moveFate] at met
    split at met
    · obtain rfl := Option.some.inj met
      exact apart here.symm
    · split at met
      · cases met
      · obtain rfl := Option.some.inj met
        contradiction
  · cases added

/-- The file at a recorded path moves to another path. -/
theorem movedAtOnce_rename (h : c.Consistent) (recorded : c.records old = true) (new : String) :
    c.MovedAtOnce (c.rename old new) fun f path => f.path = old ∧ path = new := by
  refine (turns_rename h new recorded).movedAtOnce h ?_ ?_ ?_ (c.rename_rest old new)
  · rintro f hf _ ⟨source, rfl⟩
    rw [meet_moveFate, if_pos source]
  · rintro f hf still ⟨g, hg, _, target⟩
    rw [meet_moveFate, if_neg fun source => still new ⟨source, rfl⟩, if_pos target]
  · rintro f hf still free
    obtain ⟨g, hg, source⟩ := records_iff.1 recorded
    rw [meet_moveFate, if_neg fun here => still new ⟨here, rfl⟩,
      if_neg fun target => free ⟨g, hg, source, target⟩]

/-- **A move of one path moves one file and nothing else.** If the old path is recorded, its file is
at the new path and no file is at the old one, unless the two are the same. If it is not, the new
path is recorded as present, under its old number and with its tags or under a number that no file
and no tag has. No two files are at the same path. -/
theorem rename_moves_one (h : c.Consistent) (old new : String) :
    let d := c.rename old new
    (d.files.map (·.path)).Nodup ∧
    (c.records old = true →
      c.MovedAtOnce d (fun f path => f.path = old ∧ path = new) ∧
      (old ≠ new → d.records old = false)) ∧
    (c.records old = false → c.records new = true →
      d = { c with
        files := c.files.map fun f => if f.path = new then { f with present := true } else f }) ∧
    (c.records old = false → c.records new = false →
      d = { c with files := c.files ++ [⟨c.nextId, new, true⟩] } ∧
      (∀ f ∈ c.files, f.id ≠ c.nextId) ∧ ∀ tag, (c.nextId, tag) ∉ c.tags) := by
  refine ⟨(h.rename old new).paths_distinct, fun recorded => ?_, fun unknown recorded => ?_,
    fun unknown unknown' => ⟨?_, h.nextId_unused⟩⟩
  · exact ⟨movedAtOnce_rename h recorded new, records_rename_self h recorded⟩
  · exact (rename_of_unknown unknown new).trans (place_of_recorded h recorded)
  · exact (rename_of_unknown unknown new).trans (place_of_unknown unknown')

/-- A tagged missing file moves to the path of another tagged file. -/
theorem rename_moves_one_replaced :
    let c := (Session.fresh.run
      [.place "a", .place "b", .addTags ["a", "b"] ["x"], .markMissing "a"]).catalog
    c.Consistent ∧ (c.records "a" = true ∧
      c.MovedAtOnce (c.rename "a" "b") fun f path => f.path = "a" ∧ path = "b") ∧
    (c.rename "a" "b").files = [⟨1, "b", true⟩] ∧ (c.rename "a" "b").tags = [(1, "x")] := by
  intro c
  have consistent : c.Consistent := (Session.consistent_run _).1
  have recorded : c.records "a" = true := by decide +kernel
  exact ⟨consistent, ⟨recorded, ((rename_moves_one consistent "a" "b").2.1 recorded).1⟩,
    by decide +kernel, by decide +kernel⟩

/-! ## Below a directory -/

/-- A path lies in a directory: it is the directory, a slash, and a rest. -/
def LiesIn (dir path : String) : Prop := ∃ rest, path = dir ++ "/" ++ rest

theorem liesIn_iff {dir : String} : LiesIn dir path ↔ dir.toList ++ ['/'] <+: path.toList := by
  constructor
  · rintro ⟨rest, rfl⟩
    exact ⟨rest.toList, by simp⟩
  · rintro ⟨rest, e⟩
    exact ⟨String.ofList rest, String.toList_inj.1 (by simp [← e])⟩

instance (dir path : String) : Decidable (LiesIn dir path) := decidable_of_iff _ liesIn_iff.symm

/-- **Below a directory without NUL is what lies in it.** -/
theorem isBelow_iff {dir : String} (plain : NulFree dir) :
    isBelow dir path = true ↔ LiesIn dir path := by
  rw [liesIn_iff]
  constructor
  · intro below
    obtain ⟨rest, e⟩ := exists_rest_of_isBelow below
    exact ⟨rest, by rw [e, List.append_assoc]; rfl⟩
  · rintro ⟨rest, e⟩
    have lead : ∀ ch ∈ dir.toList ++ ['/'], (ch != '\x00') = true := by
      intro ch mem
      rw [bne_iff_ne]
      rintro rfl
      rcases List.mem_append.1 mem with nul | nul
      · exact plain nul
      · exact absurd nul (by decide)
    rw [isBelow, beq_iff_eq, ← e, List.takeWhile_append_of_pos lead, List.take_left]

/-- Nothing is below a directory with a NUL, because a path counts up to its first one. -/
theorem isBelow_of_nul {dir : String} (nul : ¬ NulFree dir) (path : String) :
    isBelow dir path = false := by
  rw [← Bool.not_eq_true, isBelow, beq_iff_eq]
  intro e
  have mem : '\x00' ∈ dir.toList ++ ['/'] := List.mem_append_left _ (not_not.1 nul)
  rw [← e] at mem
  exact absurd (List.mem_takeWhile_imp (List.mem_of_mem_take mem)) (by decide)

theorem rebase_append (old new rest : String) :
    rebase old new (old ++ "/" ++ rest) = new ++ "/" ++ rest := by
  have e : (old ++ "/" ++ rest).toList = old.toList ++ '/' :: rest.toList := by simp
  exact String.toList_inj.1 (by rw [toList_rebase e]; simp)

/-! ## Directories -/

theorem meet_dirMoveFate (targets : List String) (old new : String) (f : FileRecord) :
    f.meet (dirMoveFate targets old new) =
      if isBelow old f.path && f.present then
        some { f with path := rebase old new f.path, present := true }
      else if f.path ∈ targets then none else some f := by
  rw [FileRecord.meet, dirMoveFate, FileRecord.standing]
  dsimp only
  split
  · rfl
  · split <;> rfl

/-- A present file in a directory moves to the same place in another one. -/
def MovesInto (old new : String) (f : FileRecord) (path : String) : Prop :=
  f.present = true ∧ ∃ rest, f.path = old ++ "/" ++ rest ∧ path = new ++ "/" ++ rest

theorem movesInto_iff (plain : NulFree old) :
    MovesInto old new f path ↔
      (isBelow old f.path && f.present) = true ∧ path = rebase old new f.path := by
  rw [Bool.and_eq_true, isBelow_iff plain]
  constructor
  · rintro ⟨present, rest, source, rfl⟩
    exact ⟨⟨⟨rest, source⟩, present⟩, by rw [source, rebase_append]⟩
  · rintro ⟨⟨⟨rest, source⟩, present⟩, rfl⟩
    exact ⟨present, rest, source, by rw [source, rebase_append]⟩

theorem mem_targets_iff (plain : NulFree old) :
    path ∈ (c.dirMoves old new).map (·.2) ↔ ∃ g ∈ c.files, MovesInto old new g path := by
  simp only [dirMoves, presentBelow, List.map_map, List.mem_map, List.mem_filter,
    Function.comp_apply, movesInto_iff plain]
  constructor
  · rintro ⟨g, ⟨hg, moves⟩, rfl⟩
    exact ⟨g, hg, moves, rfl⟩
  · rintro ⟨g, hg, moves, rfl⟩
    exact ⟨g, ⟨hg, moves⟩, rfl⟩

/-- **The single moves of a directory are one simultaneous move.** -/
theorem movedAtOnce_renameDir (h : c.Consistent) (apart : Apart old new) (plain : NulFree old) :
    c.MovedAtOnce (c.renameDir old new) (MovesInto old new) := by
  have stays {f : FileRecord} (still : ∀ path, ¬ MovesInto old new f path) :
      ¬ (isBelow old f.path && f.present) = true :=
    fun below => still _ ((movesInto_iff plain).2 ⟨below, rfl⟩)
  refine (turns_renameDir h apart).movedAtOnce h (fun f hf path moves => ?_)
    (fun f hf still taken => ?_) (fun f hf still free => ?_) (c.renameDir_rest old new)
  · obtain ⟨below, rfl⟩ := (movesInto_iff plain).1 moves
    rw [meet_dirMoveFate, if_pos below]
  · rw [meet_dirMoveFate, if_neg (stays still), if_pos ((mem_targets_iff plain).2 taken)]
  · rw [meet_dirMoveFate, if_neg (stays still), if_neg fun mem => free ((mem_targets_iff plain).1 mem)]

theorem length_presentBelow (plain : NulFree old) :
    (c.presentBelow old).length = c.files.countP fun f => f.present ∧ LiesIn old f.path := by
  rw [presentBelow, ← List.countP_eq_length_filter]
  refine List.countP_congr fun f _ => ?_
  rw [Bool.and_eq_true, isBelow_iff plain, decide_eq_true_iff, and_comm]

theorem presentBelow_of_nul (nul : ¬ NulFree old) : c.presentBelow old = [] :=
  List.filter_eq_nil_iff.2 fun f _ => by simp [isBelow_of_nul nul]

end Catalog

namespace Session

/-- **The move of a directory is one simultaneous move** of the present files in it, if neither of
the two directories lies inside the other: each keeps its number and its tags, what was at the
places that they move to goes, and nothing else changes. The reply is the number of files that move.
In a directory with a NUL nothing is found, and nothing changes. -/
theorem renameDir_moves_at_once {s : Session} (h : s.catalog.Consistent) {old new : String}
    (apart : Catalog.Apart old new) :
    let r := s.perform (.renameDir old new)
    (NulFree old →
      s.catalog.MovedAtOnce r.1.catalog (Catalog.MovesInto old new) ∧
      r = (⟨r.1.catalog, s.committed⟩, .count (s.catalog.files.countP fun f =>
        f.present ∧ Catalog.LiesIn old f.path))) ∧
    (¬ NulFree old → r = (s, .count 0)) := by
  refine ⟨fun plain => ⟨Catalog.movedAtOnce_renameDir h apart plain, ?_⟩, fun nul => ?_⟩
  · rw [← Catalog.length_presentBelow plain]
    rfl
  · have none := Catalog.presentBelow_of_nul (c := s.catalog) nul
    have still : s.catalog.renameDir old new = s.catalog :=
      Catalog.renameDir_of_nonePresent new (by rw [none]; rfl)
    show (s.modify _, Reply.count _) = _
    rw [none, modify, still]
    rfl

/-- A tagged file moves to the place of another one; a missing file, a file in a directory with a
longer name and a file at a place that nothing moves to stay. -/
theorem renameDir_moves_at_once_replaced :
    let s := fresh.run [.place "d/x", .place "d/y", .place "d2/x", .place "e/x", .place "e/y",
      .addTags ["d/x", "d/y"] ["t"], .addTags ["e/x"] ["u"], .markMissing "d/y"]
    let r := s.perform (.renameDir "d" "e")
    (s.catalog.Consistent ∧ Catalog.Apart "d" "e" ∧ NulFree "d") ∧
    s.catalog.MovedAtOnce r.1.catalog (Catalog.MovesInto "d" "e") ∧
    r.2 = .count 1 ∧ r.1.catalog.tags = [(1, "t"), (2, "t")] ∧
    r.1.catalog.files =
      [⟨1, "e/x", true⟩, ⟨2, "d/y", false⟩, ⟨3, "d2/x", true⟩, ⟨5, "e/y", true⟩] := by
  intro s r
  have consistent : s.catalog.Consistent := (consistent_run _).1
  have apart : Catalog.Apart "d" "e" := by decide
  have plain : NulFree "d" := by decide
  exact ⟨⟨consistent, apart, plain⟩, ((renameDir_moves_at_once consistent apart).1 plain).1,
    by decide +kernel, by decide +kernel, by decide +kernel⟩

/-- **A directory with a NUL does not move**: the file in it stays where it was. -/
theorem renameDir_overlooks_nul :
    let s := fresh.run [.place "d\x00/x"]
    let r := s.perform (.renameDir "d\x00" "e")
    s.catalog.Consistent ∧ Catalog.Apart "d\x00" "e" ∧
    s.catalog.files = [⟨1, "d\x00" ++ "/" ++ "x", true⟩] ∧ r = (s, .count 0) ∧
    ¬ s.catalog.MovedAtOnce r.1.catalog (Catalog.MovesInto "d\x00" "e") := by
  intro s r
  have consistent : s.catalog.Consistent := (consistent_run _).1
  have apart : Catalog.Apart "d\x00" "e" := by decide
  have files : s.catalog.files = [⟨1, "d\x00" ++ "/" ++ "x", true⟩] := by decide +kernel
  have same : r = (s, .count 0) := by decide +kernel
  refine ⟨consistent, apart, files, same, fun moved => ?_⟩
  have mem : (⟨1, "d\x00" ++ "/" ++ "x", true⟩ : FileRecord) ∈ s.catalog.files := by simp [files]
  have moves := (moved.moved _ mem ("e" ++ "/" ++ "x") ⟨rfl, "x", rfl, rfl⟩).1
  rw [same, files] at moves
  exact absurd moves (by decide)

end Session

end TagSearch
