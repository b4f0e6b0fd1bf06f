import TagSearch.Proofs.Catalog.Mirror

/-!
# Opening an index

A stored index may lack the record of presence, the tags, the state or the token table, and its
token table may have other columns than those in use. Opening it keeps the rows that it has and
makes the token table anew only if it cannot be used. What is opened is in the order of numbers, so
that it is the same when it is stored and opened again.

* `StoredIndex.open_eq`: the rows are read, and the token table is made anew if its columns differ.
* `Catalog.Ordered`: the files stand in increasing order of their numbers.
* `Catalog.open_stored`: ordered tables are stored and opened without a change.
* `StoredIndex.open_keeps_rows`: no file and no tag is lost, and opening again changes nothing.
-/

namespace TagSearch

/-! ## The rows that are read -/

/-- The numbers and paths of stored files. -/
def StoredFiles.entries : StoredFiles → List (Int × String)
  | .withoutPresence rows => rows
  | .records rows => rows.map fun f => (f.id, f.path)

theorem StoredFiles.map_toRecords (files : StoredFiles) :
    (files.toRecords.map fun f => (f.id, f.path)) = files.entries := by
  cases files with
  | withoutPresence rows =>
    rw [toRecords, List.map_map]
    exact List.map_id rows
  | records rows => rfl

namespace StoredIndex

variable (s : StoredIndex)

/-- **Opening reads the rows**, and makes the token table anew if its columns are not in use. -/
theorem open_eq :
    s.open = if s.tokens.columns = tokenColumns then s.read else s.read.refreshTokens := by
  have kept : s.createTables.addPresence.tokens.create = s.tokens.create := rfl
  rw [StoredIndex.open, kept, StoredTokens.create]
  by_cases h : s.tokens.columns = tokenColumns
  · rw [if_pos h, if_pos h]
    rfl
  · rw [if_neg h, if_neg h]
    rfl

theorem open_files : s.open.files = s.read.files := by
  rw [open_eq]
  split <;> rfl

theorem open_tags : s.open.tags = s.tags?.getD [] := by
  rw [open_eq]
  split <;> rfl

theorem open_state : s.open.state = s.state := by
  rw [open_eq]
  split <;> rfl

theorem open_files_perm : s.open.files.Perm s.files.toRecords := by
  rw [open_files]
  exact List.mergeSort_perm _ _

/-- Every file keeps its number and its path. -/
theorem open_entries_perm : (s.open.files.map fun f => (f.id, f.path)).Perm s.files.entries := by
  rw [← s.files.map_toRecords]
  exact s.open_files_perm.map _

variable {s}

/-- Files without a record of presence are present. -/
theorem present_of_withoutPresence {rows : List (Int × String)}
    (h : s.files = .withoutPresence rows) : ∀ f ∈ s.open.files, f.present = true := by
  intro f hf
  have mem := s.open_files_perm.subset hf
  rw [h] at mem
  obtain ⟨row, _, rfl⟩ := List.mem_map.1 mem
  rfl

/-- A token table with the columns in use stays as it is. -/
theorem open_tokens (h : s.tokens.columns = tokenColumns) : s.open.tokens = s.tokens.rows := by
  rw [open_eq, if_pos h]
  rfl

/-- A token table that is absent or outdated is made from the tags. -/
theorem mirrored_open (h : s.tokens.columns ≠ tokenColumns) : s.open.Mirrored := by
  rw [open_eq, if_neg h]
  exact Catalog.mirrored_refreshTokens _

end StoredIndex

/-! ## Ordered tables -/

namespace Catalog

variable {c : Catalog}

/-- The files stand in increasing order of their numbers. -/
def Ordered (c : Catalog) : Prop := (c.files.map (·.id)).Pairwise (· ≤ ·)

theorem ordered_open (s : StoredIndex) : s.open.Ordered := by
  have sorted : s.read.files.Pairwise fun f g => decide (f.id ≤ g.id) = true := by
    refine List.pairwise_mergeSort (fun f g h hfg hgh => ?_) (fun f g => ?_) _
    · exact decide_eq_true (Int.le_trans (of_decide_eq_true hfg) (of_decide_eq_true hgh))
    · simpa using Int.le_total f.id g.id
  rw [Ordered, s.open_files, List.pairwise_map]
  exact sorted.imp of_decide_eq_true

/-- **Ordered tables are stored and opened without a change.** -/
theorem open_stored (h : c.Ordered) : c.stored.open = c := by
  have sorted : c.files.Pairwise fun f g => decide (f.id ≤ g.id) = true :=
    (List.pairwise_map.1 h).imp decide_eq_true
  have same : c.stored.read.files = c.files := List.mergeSort_of_pairwise sorted
  have current : c.stored.tokens.columns = tokenColumns := rfl
  rw [StoredIndex.open_eq, if_pos current]
  exact congrArg (fun files => { c with files }) same

end Catalog

/-! ## Opening without loss -/

namespace StoredIndex

/-- A session that changes nothing leaves what it opened, whichever way it ends. -/
theorem open_start (s : StoredIndex) :
    (Session.start s).close.open = s.open ∧ (Session.start s).abort.open = s.open :=
  ⟨Catalog.open_stored (Catalog.ordered_open s), Catalog.open_stored (Catalog.ordered_open s)⟩

/-- **Opening loses nothing and is done once.** Whatever the shape of a stored index, its files keep
their numbers and paths, and its tags and its state stay. Files without a record of presence are
present, and a record of presence stays. A token table with the columns in use stays as it is, and
one that is absent or outdated mirrors the tags. When the session is left, normally or by an error,
and the index is opened again, all rows are the same. -/
theorem open_keeps_rows (s : StoredIndex) :
    ((s.open.files.map fun f => (f.id, f.path)).Perm s.files.entries ∧
      s.open.tags = s.tags?.getD [] ∧ s.open.state = s.state) ∧
    (∀ rows, s.files = .withoutPresence rows → ∀ f ∈ s.open.files, f.present = true) ∧
    (∀ rows, s.files = .records rows → s.open.files.Perm rows) ∧
    (s.tokens.columns ≠ tokenColumns → s.open.Mirrored) ∧
    (s.tokens.columns = tokenColumns → s.open.tokens = s.tokens.rows) ∧
    (Session.start s).close.open = s.open ∧ (Session.start s).abort.open = s.open := by
  refine ⟨⟨s.open_entries_perm, s.open_tags, s.open_state⟩, fun _ => present_of_withoutPresence,
    fun rows h => ?_, mirrored_open, open_tokens, s.open_start⟩
  have kept := s.open_files_perm
  rw [h] at kept
  exact kept

theorem open_keeps_rows_outdated :
    let old : StoredIndex :=
      ⟨.withoutPresence [(2, "b"), (1, "a")], some [(2, "x")], .outdated, none⟩
    let new : StoredIndex := ⟨.records [⟨2, "b", false⟩], none, .current [("78", 9)], none⟩
    (old.tokens.columns ≠ tokenColumns ∧ (∀ f ∈ old.open.files, f.present = true) ∧
      old.open.Mirrored) ∧
    (new.tokens.columns = tokenColumns ∧ new.open.files.Perm [⟨2, "b", false⟩] ∧
      new.open.tokens = [("78", 9)]) := by
  intro old new
  have outdated : old.tokens.columns ≠ tokenColumns := by decide
  have current : new.tokens.columns = tokenColumns := rfl
  obtain ⟨_, present, _, mirrored, _⟩ := open_keeps_rows old
  obtain ⟨_, _, kept, _, tokens, _⟩ := open_keeps_rows new
  exact ⟨⟨outdated, present _ rfl, mirrored outdated⟩, current, kept _ rfl, tokens current⟩

end StoredIndex

end TagSearch
