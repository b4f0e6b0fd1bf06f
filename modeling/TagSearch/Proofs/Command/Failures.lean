import TagSearch.Proofs.Catalog.Upgrade
import TagSearch.Proofs.Command.IndexFile
import TagSearch.Proofs.Command.Reading
import TagSearch.Proofs.Settings.Saved

/-!
# Commands that fail

A command that is refused leaves the rows of an index as they were. Most refusals come before the
index is opened; where tags are edited it is open already, and the session is taken back.

* `StoredIndex.IsCurrent`: an index in the shape in which the program stores it.
* `CommandPath.Refuses`: the ways in which commands fail without having changed an index.
* `CommandContext.perform_of_refuses`: what a refused command does.
* `Host.failed_run_keeps_index`: what a failed run leaves.
-/

namespace TagSearch

/-! ## Indexes that are up to date -/

namespace StoredIndex

variable {s : StoredIndex}

/-- An index has all its tables, in the shape in which they are stored now. -/
structure IsCurrent (s : StoredIndex) : Prop where
  records : ∃ rows, s.files = .records rows
  tags : s.tags?.isSome = true
  tokens : s.tokens.columns = tokenColumns

theorem isCurrent_stored (c : Catalog) : c.stored.IsCurrent := ⟨⟨_, rfl⟩, rfl, rfl⟩

/-- Opening an index that is up to date only reads its rows. -/
theorem IsCurrent.open_eq_read (h : s.IsCurrent) : s.open = s.read := by
  rw [open_eq, if_pos h.tokens]

/-- **A session that is taken back leaves the rows** of an index that was up to date. -/
theorem IsCurrent.read_abort (h : s.IsCurrent) : (Session.start s).abort.read = s.read :=
  calc (Session.start s).abort.read
      = (Session.start s).abort.open := (isCurrent_stored _).open_eq_read.symm
    _ = s.open := s.open_start.2
    _ = s.read := h.open_eq_read

end StoredIndex

/-! ## Commands that are refused -/

/-- A code by which a command tells that it failed before it changed an index, or took the change
back. The code for an index that cannot be used tells so too, unless of a command that may have
brought the index in line with the disk before. -/
structure CommandPath.Refuses (c : CommandPath) (code : ExitCode) : Prop where
  failed : code ≠ .success
  other : c ≠ .initConfig
  early : code = .indexError → c ≠ .search ∧ c ≠ .watch

namespace CommandContext

/-- Unless a command ended with one of some codes, the host is as it was, or the session on the
index was taken back. -/
def Spares (c : CommandContext) (codes : List ExitCode) (o : Outcome) : Prop :=
  o.code ∈ codes ∨ o.host = c.host ∨
    ∃ s, c.host.openIndex c.settings.root = .ok s ∧ o.host = s.abort

variable {c : CommandContext} {r : Report} {codes : List ExitCode}

theorem spares_leave (code : ExitCode) (r : Report) : c.Spares codes (c.leave code r) :=
  Or.inr (Or.inl rfl)

theorem spares_abort {s : IndexSession} (opened : c.host.openIndex c.settings.root = .ok s)
    (code : ExitCode) (r : Report) : c.Spares codes ⟨code, r, s.abort⟩ :=
  Or.inr (Or.inr ⟨s, opened, rfl⟩)

/-! ### Before the index is opened -/

theorem spares_withRoot {go : PathText → Outcome} (inside : c.Spares codes (go c.settings.root)) :
    c.Spares codes (c.withRoot r go) := by
  rw [withRoot]
  split
  · exact inside
  · exact spares_leave _ _
  · exact spares_leave _ _

theorem spares_withIndex {root : PathText} {go : IndexSession → Outcome}
    (inside : ∀ s, c.host.openIndex root = .ok s → c.Spares codes (go s)) :
    c.Spares codes (c.withIndex r root go) := by
  rw [withIndex]
  split
  · rename_i s opened
    exact inside s opened
  · exact spares_leave _ _

theorem spares_withEditedIndex {root : PathText} {go : IndexSession → Outcome}
    (inside : ∀ s, c.host.openIndex root = .ok s → c.Spares codes (go s)) :
    c.Spares codes (c.withEditedIndex r root go) := by
  rw [withEditedIndex]
  split
  · rename_i s opened
    exact inside s opened
  · exact spares_leave _ _

/-! ### The commands -/

/-- A search has opened the index if it finds files or fails at the index. -/
theorem spares_search (q : SearchRequest) : c.Spares [.success, .indexError] (c.search q r) := by
  refine spares_withRoot ?_
  split
  · exact spares_leave _ _
  · refine spares_withIndex fun s _ => Or.inl ?_
    rw [searchIndex]
    split
    · exact List.mem_cons_of_mem _ List.mem_cons_self
    · dsimp only
      split
      · exact List.mem_cons_of_mem _ List.mem_cons_self
      · exact List.mem_cons_self
      · split
        · exact List.mem_cons_self
        · exact List.mem_cons_of_mem _ List.mem_cons_self

/-- A scan that fails is taken back. -/
theorem spares_rebuildIndex (prune : Bool) : c.Spares [.success] (c.rebuildIndex prune r) := by
  refine spares_withRoot (spares_withIndex fun s opened => ?_)
  dsimp only
  split
  · exact spares_abort opened _ _
  · exact Or.inl List.mem_cons_self

theorem spares_watch (ticks : List (List DiskEvent)) :
    c.Spares [.success, .indexError] (c.watch ticks r) := by
  refine spares_withRoot (spares_withIndex fun s _ => Or.inl ?_)
  split
  · exact List.mem_cons_of_mem _ List.mem_cons_self
  · dsimp only
    split
    · exact List.mem_cons_of_mem _ List.mem_cons_self
    · exact List.mem_cons_self

/-- Paths are named before the index is opened, and an edit that is refused is taken back. -/
theorem spares_editTags (edit : TagEdit) (usageNote : String) (paths tags : List String) :
    c.Spares [.success] (c.editTags edit usageNote paths tags r) := by
  refine spares_withRoot ?_
  split
  · rename_i e _
    cases e with
    | outside | unresolved => exact spares_leave _ _
  · refine spares_withEditedIndex fun s opened => ?_
    split
    · exact spares_abort opened _ _
    · rename_i e _
      cases e with
      | blankTag => exact spares_abort opened _ _
      | notIndexed =>
        cases edit with
        | add | remove => exact spares_abort opened _ _
    · exact Or.inl List.mem_cons_self

/-- An edit that the session refuses fails for the reason that it gives. -/
theorem editTags_of_refused {edit : TagEdit} {usageNote : String} {paths tags names : List String}
    {es : List (String × Node Content)} {s : IndexSession} {e : TaggingError}
    (root : c.host.disk.find? c.host.cwd c.settings.root = .ok (some (.dir es)))
    (named : (paths.mapM fun p =>
      c.host.disk.indexPath c.host.cwd c.settings.root (.ofText p)) = .ok names)
    (opened : c.host.openIndex c.settings.root = .ok s)
    (refused : edit.perform? c.capacity s.session names tags = some (.error e)) :
    c.editTags edit usageNote paths tags r = edit.failure s e r := by
  rw [editTags, withRoot, root]
  dsimp only
  rw [named]
  dsimp only
  rw [withEditedIndex, opened]
  dsimp only
  rw [refused]

theorem spares_listTags (json : Bool) : c.Spares [.success] (c.listTags json r) :=
  spares_withRoot (spares_withEditedIndex fun _ _ => Or.inl List.mem_cons_self)

theorem spares_describe (names : List String) : c.Spares [] (c.describe names r) := by
  rw [describe]
  split <;> exact spares_leave _ _

/-- **What a refused command leaves**: the host as it was, or a session on the index taken back. -/
theorem perform_of_refuses {command : CommandPath} {uses : List OptionUse} {operands : List String}
    {ticks : List (List DiskEvent)}
    (refused : command.Refuses (c.perform command uses operands ticks r).code) :
    c.Spares [] (c.perform command uses operands ticks r) := by
  obtain ⟨failed, other, early⟩ := refused
  have failing {o : Outcome} (spares : c.Spares [.success] o) (failed : o.code ≠ .success) :
      c.Spares [] o :=
    Or.inr (spares.resolve_left fun mem => failed (List.mem_singleton.1 mem))
  have reading {o : Outcome} (spares : c.Spares [.success, .indexError] o)
      (failed : o.code ≠ .success) (usable : o.code ≠ .indexError) : c.Spares [] o := by
    refine Or.inr (spares.resolve_left fun mem => ?_)
    exact (List.mem_cons.1 mem).elim failed fun mem => usable (List.mem_singleton.1 mem)
  cases command with
  | program | tags => exact spares_leave _ _
  | help => exact spares_describe operands
  | initConfig => exact (other rfl).elim
  | rebuildIndex => exact failing (spares_rebuildIndex _) failed
  | search => exact reading (spares_search _) failed fun code => (early code).1 rfl
  | watch => exact reading (spares_watch ticks) failed fun code => (early code).2 rfl
  | tagsAdd | tagsRemove => exact failing (spares_editTags _ _ _ _) failed
  | tagsList => exact failing (spares_listTags _) failed

end CommandContext

/-! ## Command lines that fail -/

namespace Host

variable {h : Host} {root : PathText} {index : StoredIndex}

/-- **A session that is taken back leaves the rows** of the index of the directory. -/
theorem storedIndex?_abort (sound : h.Sound) {s : IndexSession}
    (opened : h.openIndex root = .ok s) (stored : h.storedIndex? root = some index)
    (current : index.IsCurrent) :
    ∃ index', s.abort.storedIndex? root = some index' ∧ index'.IsCurrent ∧
      index'.read = index.read := by
  have top : h.disk.kind? [] = some true := Node.kind?_of_isPrefix sound.cwd List.nil_prefix
  obtain ⟨session, on⟩ := of_openIndex sound.disk.proper top stored opened
  refine ⟨_, (on.storedIndex?_leave sound.disk.proper _).1, ?_⟩
  rw [session]
  exact ⟨StoredIndex.isCurrent_stored _, current.read_abort⟩

/-- **A run that fails leaves the index as it was.** A command line that makes no call, because it
is wrong or its settings cannot be loaded, changes nothing at all. If a call is refused, an index of
the directory that is up to date has the same rows afterwards: the files by their numbers, the tags,
the token table and the last scan. -/
theorem failed_run_keeps_index (sound : h.Sound) (arguments : List String)
    (ticks : List (List DiskEvent)) (capacity : Nat) :
    let after := h.run arguments ticks capacity
    ((∀ q, ¬ h.Reads arguments q) → after.host = h) ∧
    ∀ q, h.Reads arguments q → q.command.Refuses after.code →
      ∀ index, h.storedIndex? q.settings.root = some index → index.IsCurrent →
        ∃ index', after.host.storedIndex? q.settings.root = some index' ∧
          index'.IsCurrent ∧ index'.read = index.read := by
  intro after
  refine ⟨run_of_not_reads, fun q read refused index stored current => ?_⟩
  have run : after = _ := run_of_reads read
  rw [run] at refused ⊢
  rcases CommandContext.perform_of_refuses refused with done | same | ⟨s, opened, aborted⟩
  · cases done
  · rw [same]
    exact ⟨index, stored, current, rfl⟩
  · rw [aborted]
    exact storedIndex?_abort sound opened stored current

/-! ### A path that is not recorded -/

/-- An index of one file, which has a tag. -/
def taggedIndex : StoredIndex :=
  ⟨.records [⟨1, "a", true⟩], some [(1, "x")], .current [("78", 1)], some ⟨"/r", 1⟩⟩

/-- A host with a directory that has this index. -/
def taggedHost : Host :=
  Settings.topHost
    [("r", .dir [(".tag-commander.db", .file (.index taggedIndex)), ("a", .file (.text ""))])]

theorem links_taggedHost : taggedHost.disk.links = [] := by cbv

theorem sound_taggedHost : taggedHost.Sound := by
  have proper : taggedHost.disk.Proper := by
    simp [taggedHost, Settings.topHost, Node.proper_dir_iff, Node.IsName]
  exact ⟨Node.sound_of_links_eq_nil proper links_taggedHost, by cbv⟩

theorem openIndex_taggedHost :
    ∃ s, taggedHost.openIndex ⟨.top, ["r"]⟩ = .ok s ∧ s.session = .start taggedIndex := by
  have led : taggedHost.indexPlace? ⟨.top, ["r"]⟩ = some ["r", ".tag-commander.db"] := by cbv
  refine exists_openIndex sound_taggedHost.disk.proper rfl led rfl (by cbv) fun c => ?_
  cases c <;> cbv

theorem find?_taggedHost :
    ∃ entries, taggedHost.disk.find? [] ⟨.top, ["r"]⟩ = .ok (some (.dir entries)) :=
  ⟨_, by cbv⟩

/-- Options that name the directory, and a settings file that does not exist. -/
def taggedGlobals : List OptionUse := [⟨"config", "c", true⟩, ⟨"root", "r", true⟩]

/-- The settings for them. -/
def taggedSettings : Settings := { Settings.default [] with root := ⟨.top, ["r"]⟩ }

theorem settingsFor_taggedGlobals :
    taggedHost.settingsFor taggedGlobals = .ok (taggedSettings, [.noFile ⟨.top, ["c"]⟩]) := by
  cbv

/-- A call with these options. -/
def taggedCall (command : CommandPath) (uses : List OptionUse) (operands : List String) :
    CommandCall :=
  ⟨taggedGlobals, taggedSettings, [.noFile ⟨.top, ["c"]⟩], command, uses, operands⟩

/-- The warning about the settings file has no bracket in it. -/
theorem isBracketFree_taggedCall {command : CommandPath} {uses : List OptionUse}
    {operands : List String} (free : ∀ text ∈ operands, isBracketFree text = true) :
    (taggedCall command uses operands).IsBracketFree :=
  ⟨free, fun _ w mem => by
    obtain rfl := List.mem_singleton.1 mem
    decide⟩

/-- A command line that tags a file that is recorded and one that is not. -/
def taggingLine : List String := ["-c", "c", "-R", "r", "tags", "add", "a", "b", "-t", "y"]

/-- What it calls. -/
def taggingCall : CommandCall := taggedCall .tagsAdd [⟨"tag", "y", true⟩] ["a", "b"]

theorem reads_taggingCall : taggedHost.Reads taggingLine taggingCall := by
  have before : CommandPath.program.spec.accept taggedHost taggingLine =
      .ok (taggedGlobals, ["tags", "add", "a", "b", "-t", "y"]) := by cbv
  have between : CommandPath.tags.spec.accept taggedHost ["add", "a", "b", "-t", "y"] =
      .ok ([], ["add", "a", "b", "-t", "y"]) := by cbv
  have behind : CommandPath.tagsAdd.spec.accept taggedHost ["a", "b", "-t", "y"] =
      .ok ([⟨"tag", "y", true⟩], ["a", "b"]) := by cbv
  exact ⟨settingsFor_taggedGlobals, _, _, .tags, before, by cbv,
    .further rfl between (by cbv) behind⟩

theorem code_taggingLine : (taggedHost.run taggingLine []).code = .indexError := by
  obtain ⟨s, opened, session⟩ := openIndex_taggedHost
  obtain ⟨entries, root⟩ := find?_taggedHost
  have named : (["a", "b"].mapM fun p =>
      taggedHost.disk.indexPath [] ⟨.top, ["r"]⟩ (.ofText p)) = .ok ["a", "b"] := by cbv
  have refused : TagEdit.perform? .add usualCapacity s.session ["a", "b"] ["y"] =
      some (.error (.notIndexed "b")) := by
    rw [session]
    cbv
  rw [run_of_reads reads_taggingCall]
  exact congrArg Outcome.code (CommandContext.editTags_of_refused
    (c := taggingCall.context taggedHost usualCapacity) root named opened refused)

theorem failed_run_keeps_index_unrecorded :
    taggedHost.Sound ∧ taggedHost.Reads taggingLine taggingCall ∧
    taggingCall.command.Refuses (taggedHost.run taggingLine []).code ∧
    taggedHost.storedIndex? taggingCall.settings.root = some taggedIndex ∧ taggedIndex.IsCurrent ∧
    ∃ index, (taggedHost.run taggingLine []).host.storedIndex? taggingCall.settings.root =
      some index ∧ index.IsCurrent ∧ index.read = taggedIndex.read := by
  have refused : taggingCall.command.Refuses (taggedHost.run taggingLine []).code := by
    rw [code_taggingLine]
    exact ⟨by decide, by decide, fun _ => by decide⟩
  have stored : taggedHost.storedIndex? taggingCall.settings.root = some taggedIndex := by cbv
  have current : taggedIndex.IsCurrent := ⟨⟨_, rfl⟩, rfl, rfl⟩
  exact ⟨sound_taggedHost, reads_taggingCall, refused, stored, current,
    (failed_run_keeps_index sound_taggedHost taggingLine [] usualCapacity).2 taggingCall
      reads_taggingCall refused taggedIndex stored current⟩

end Host

end TagSearch
