import TagSearch.Command.Outcome
import TagSearch.Proofs.Catalog.Parts
import TagSearch.Proofs.Catalog.Upgrade

/-!
# What an error takes back

A session that is left by an error loses what was done since its last commit. Scans that succeed
commit, and changes and taggings do if they count something; a commit takes with it whatever was
done before. A call that fails changes nothing and commits nothing.

* `IndexCall` is what may be asked of a session, a scan of a directory that may fail included.
* `Session.committed_call`: what a call leaves committed is told by its reply.
* `Catalog.Ordered.effect`: the files stay in the order of their numbers, so that the next session
  sees the rows as they were stored.
* `Session.next_session_sees`: what the next session sees after an error.
-/

namespace TagSearch

/-! ## Calls -/

namespace Session

/-- Scans a directory, takes over what it finds and commits. Nothing changes if it cannot be
scanned. -/
def scan (s : Session) (disk : Node Content) (cwd : Place) (root : PathText) (prune : Bool) :
    Except ScanError (Session × Nat) :=
  (disk.scanPaths cwd root).map fun found => s.build root.toText found prune

/-- The scan of a command is a scan by its session. -/
theorem map_build (c : CommandContext) (s : IndexSession) (root : PathText) (prune : Bool)
    (r : Report) :
    (c.build s root prune r).map (fun (s, count, _) => (s.session, count)) =
      s.session.scan s.host.disk s.host.cwd root prune := by
  rw [CommandContext.build, scan]
  cases s.host.disk.scanPaths s.host.cwd root with
  | error e => rfl
  | ok found => rfl

end Session

/-- Something that is asked of a session while it lasts. -/
inductive IndexCall where
  /-- An action that stays within the session. -/
  | action (a : IndexAction) (inside : a.staysOpen = true)
  /-- A scan of a directory, as the disk is at that time. -/
  | scan (disk : Node Content) (cwd : Place) (root : PathText) (prune : Bool)

namespace IndexCall

/-- Carries out a call. A scan that fails has an error for a reply. -/
def perform (s : Session) : IndexCall → Session × Except ScanError Reply
  | .action a _ => ((s.perform a).1, .ok (s.perform a).2)
  | .scan disk cwd root prune =>
    match s.scan disk cwd root prune with
    | .ok (s, n) => (s, .ok (.count n))
    | .error e => (s, .error e)

/-- The reply to a call tells that it committed: a scan that did not fail always did, changes and
taggings did if they counted something. -/
def commits (reply : Except ScanError Reply) : IndexCall → Bool
  | .action a _ => match reply with
    | .ok r => a.refreshes r
    | .error _ => false
  | .scan _ _ _ _ => match reply with
    | .ok _ => true
    | .error _ => false

end IndexCall

namespace Session

/-- The session after some calls. -/
def after (s : Session) (calls : List IndexCall) : Session :=
  calls.foldl (fun s call => (call.perform s).1) s

/-- Whether the reply to a call tells that it committed. -/
def commits (s : Session) (call : IndexCall) : Bool := call.commits (call.perform s).2

/-- No call of a list commits. -/
def NoneCommits (s : Session) : List IndexCall → Prop
  | [] => True
  | call :: calls => s.commits call = false ∧ (call.perform s).1.NoneCommits calls

/-- The last call of a list commits. -/
def LastCommits (s : Session) (calls : List IndexCall) : Prop :=
  ∃ before last, calls = before ++ [last] ∧ (s.after before).commits last = true

variable {s : Session}

theorem after_append (l₁ l₂ : List IndexCall) : s.after (l₁ ++ l₂) = (s.after l₁).after l₂ :=
  List.foldl_append

theorem noneCommits_append {l₁ l₂ : List IndexCall} :
    s.NoneCommits (l₁ ++ l₂) ↔ s.NoneCommits l₁ ∧ (s.after l₁).NoneCommits l₂ := by
  induction l₁ generalizing s with
  | nil => exact (iff_of_eq (true_and _)).symm
  | cons call l₁ ih =>
    show _ ∧ (call.perform s).1.NoneCommits (l₁ ++ l₂) ↔ (_ ∧ _) ∧ _
    rw [ih, and_assoc]
    rfl

/-! ## What is committed -/

/-- An action that counts nothing leaves what was committed. -/
theorem committed_of_not_isPositive {x : Except TaggingError (Catalog × Nat)}
    (h : (s.counted (x.map s.settle)).2.isPositive = false) :
    (s.counted (x.map s.settle)).1.committed = s.committed := by
  cases x with
  | error e => rfl
  | ok r =>
    have none : r.2 = 0 := Nat.eq_zero_of_not_pos (of_decide_eq_false h)
    rw [Except.map, counted, settle]
    dsimp only
    rw [if_pos none]
    rfl

/-- An action that may commit has committed everything if it counted something, and nothing
otherwise. -/
theorem committed_counted (x : Except TaggingError (Catalog × Nat)) :
    (s.counted (x.map s.settle)).1.committed =
      if (s.counted (x.map s.settle)).2.isPositive then (s.counted (x.map s.settle)).1.catalog
      else s.committed := by
  split
  case isTrue h =>
    obtain ⟨r, _, _, e⟩ := counted_of_isPositive h
    rw [e]
  case isFalse h => exact committed_of_not_isPositive (eq_false_of_ne_true h)

/-- **The reply tells what is committed**: all that the session sees, or what was committed
before. -/
theorem committed_call (s : Session) (call : IndexCall) :
    (call.perform s).1.committed =
      if s.commits call then (call.perform s).1.catalog else s.committed := by
  cases call with
  | action a inside =>
    cases a with
    | build => rfl
    | applyChanges events => exact committed_counted (.ok (s.catalog.applyChanges events))
    | addTags paths tags => exact committed_counted (s.catalog.addTags paths tags)
    | removeTags paths tags => exact committed_counted (s.catalog.removeTags paths tags)
    | reopen | abort => cases inside
    | place | markMissing | rename | markDirMissing | renameDir | refreshTokens => rfl
  | scan disk cwd root prune =>
    rw [commits, IndexCall.perform, scan]
    cases disk.scanPaths cwd root with
    | error e => rfl
    | ok found => rfl

end Session

/-! ## The order of the files -/

namespace Catalog

variable {c c' : Catalog}

namespace Ordered

/-- The order depends on the numbers only, and some of them may go. -/
theorem of_sublist (h : c.Ordered) (ids : (c'.files.map (·.id)).Sublist (c.files.map (·.id))) :
    c'.Ordered := h.sublist ids

theorem mapFiles (h : c.Ordered) {g : FileRecord → FileRecord} (keeps : ∀ r, (g r).id = r.id) :
    { c with files := c.files.map g }.Ordered := by
  have same : (c.files.map g).map (·.id) = c.files.map (·.id) := by
    rw [List.map_map]
    exact List.map_congr_left fun r _ => keeps r
  rw [Ordered, same]
  exact h

theorem update (h : c.Ordered) {id : Int} {g : FileRecord → FileRecord}
    (keeps : ∀ r, (g r).id = r.id) : (c.update id g).Ordered := by
  refine h.mapFiles fun r => ?_
  split
  · exact keeps r
  · rfl

/-- A new file has the largest number. -/
theorem insert (h : c.Ordered) (path : String) : (c.insert path).Ordered := by
  rw [Ordered, Catalog.insert, List.map_append, List.pairwise_append]
  refine ⟨h, List.pairwise_singleton _ _, fun i hi j hj => ?_⟩
  obtain ⟨f, hf, rfl⟩ := List.mem_map.1 hi
  obtain rfl := List.mem_singleton.1 hj
  exact Int.le_of_lt (id_lt_nextId hf)

theorem place (h : c.Ordered) (path : String) : (c.place path).Ordered := by
  rw [Catalog.place]
  cases c.find? path with
  | none => exact h.insert path
  | some f => exact h.update fun r => rfl

theorem markMissing (h : c.Ordered) (path : String) : (c.markMissing path).Ordered := by
  rw [Catalog.markMissing]
  cases c.find? path with
  | none => exact h
  | some f => exact h.update fun r => rfl

theorem rename (h : c.Ordered) (old new : String) : (c.rename old new).Ordered := by
  rw [Catalog.rename]
  cases c.find? old with
  | none => exact h.place new
  | some f =>
    refine update ?_ fun r => rfl
    cases c.find? new with
    | none => exact h
    | some g =>
      dsimp only
      split
      · exact h
      · exact h.of_sublist (List.filter_sublist.map _)

theorem markDirMissing (h : c.Ordered) (dir : String) : (c.markDirMissing dir).Ordered := by
  refine h.mapFiles fun r => ?_
  split <;> rfl

theorem renameDir (h : c.Ordered) (old new : String) : (c.renameDir old new).Ordered := by
  rw [Catalog.renameDir]
  generalize c.dirMoves old new = moves
  induction moves generalizing c with
  | nil => exact h
  | cons move moves ih => exact ih (h.rename move.1 move.2)

theorem sync (h : c.Ordered) (found : List String) (prune : Bool) :
    (c.sync found prune).Ordered := by
  have grown : ((c.newPaths found).foldl Catalog.insert c).Ordered := by
    generalize c.newPaths found = paths
    induction paths generalizing c with
    | nil => exact h
    | cons path paths ih => exact ih (h.insert path)
  rw [Catalog.sync]
  cases prune with
  | false => exact grown.mapFiles fun r => rfl
  | true =>
    refine grown.of_sublist ?_
    dsimp only
    rw [if_pos rfl, List.map_map]
    exact List.filter_sublist.map _

theorem step (h : c.Ordered) (e : Change) : (c.step e).1.Ordered := by
  obtain ⟨kind, path, dest?⟩ := e
  cases kind with
  | created => exact h.place path
  | deleted => exact h.markMissing path
  | dirDeleted => exact h.markDirMissing path
  | moved =>
    cases dest? with
    | none => exact h
    | some dest => exact h.rename path dest
  | dirMoved =>
    cases dest? with
    | none => exact h
    | some dest => exact h.renameDir path dest

theorem steps (h : c.Ordered) (events : List Change) : (c.steps events).1.Ordered := by
  induction events generalizing c with
  | nil => exact h
  | cons e events ih =>
    rw [steps_cons]
    exact ih (h.step e)

theorem withTags (h : c.Ordered) (rows : List (Int × String)) : (c.withTags rows).Ordered := by
  rw [Catalog.withTags]
  split <;> exact h

/-- **Every action keeps the order of the files.** -/
theorem effect (h : c.Ordered) (a : IndexAction) : (a.effect c).Ordered := by
  cases a with
  | build root found prune => exact h.sync found prune
  | place path => exact h.place path
  | markMissing path => exact h.markMissing path
  | rename old new => exact h.rename old new
  | markDirMissing dir => exact h.markDirMissing dir
  | renameDir old new => exact h.renameDir old new
  | refreshTokens => exact h
  | applyChanges events =>
    show (if _ then (c.steps events).1 else _).Ordered
    split
    · exact h.steps events
    · exact h.steps events
  | addTags paths tags =>
    refine after_of_ok h fun r added => ?_
    obtain ⟨rows, e, _⟩ := addTags_withTags added
    rw [e]
    exact h.withTags rows
  | removeTags paths tags =>
    refine after_of_ok h fun r removed => ?_
    obtain ⟨rows, e, _⟩ := removeTags_withTags removed
    rw [e]
    exact h.withTags rows
  | reopen | abort => exact ordered_open _

end Ordered

end Catalog

namespace Session

variable {s : Session}

/-- A call keeps the order of the files that are seen and of those that are committed. -/
theorem ordered_call (h : s.catalog.Ordered ∧ s.committed.Ordered) (call : IndexCall) :
    (call.perform s).1.catalog.Ordered ∧ (call.perform s).1.committed.Ordered := by
  cases call with
  | action a inside =>
    rcases perform_cases s a with e | e | e
    · exact e ▸ ⟨h.1.effect a, h.2⟩
    · exact e ▸ ⟨h.1.effect a, h.1.effect a⟩
    · exact e ▸ ⟨Catalog.ordered_open _, Catalog.ordered_open _⟩
  | scan disk cwd root prune =>
    rw [IndexCall.perform, scan]
    cases disk.scanPaths cwd root with
    | error e => exact h
    | ok found => exact ⟨h.1.sync found prune, h.1.sync found prune⟩

theorem ordered_after (h : s.catalog.Ordered ∧ s.committed.Ordered) (calls : List IndexCall) :
    (s.after calls).catalog.Ordered ∧ (s.after calls).committed.Ordered := by
  induction calls generalizing s with
  | nil => exact h
  | cons call calls ih => exact ih (ordered_call h call)

/-! ## Leaving a session -/

/-- The tables that are committed after some calls are those after the last call that commits, or
those at the start if no call does. -/
theorem exists_committed_after (start : s.committed = s.catalog) (calls : List IndexCall) :
    ∃ kept lost, calls = kept ++ lost ∧ (s.after calls).committed = (s.after kept).catalog ∧
      (kept = [] ∨ s.LastCommits kept) ∧ (s.after kept).NoneCommits lost := by
  -- from the last call backwards: either it commits, or it is lost with those before it
  induction calls using List.reverseRecOn with
  | nil => exact ⟨[], [], rfl, start, Or.inl rfl, trivial⟩
  | append_singleton calls call ih =>
    have last : (s.after (calls ++ [call])).committed =
        if (s.after calls).commits call then (s.after (calls ++ [call])).catalog
        else (s.after calls).committed := by
      rw [after_append]
      exact committed_call (s.after calls) call
    cases commits : (s.after calls).commits call with
    | true =>
      rw [commits, if_pos rfl] at last
      exact ⟨calls ++ [call], [], (List.append_nil _).symm, last,
        Or.inr ⟨calls, call, rfl, commits⟩, trivial⟩
    | false =>
      rw [commits, if_neg Bool.false_ne_true] at last
      obtain ⟨kept, lost, rfl, committed, kept_last, none⟩ := ih
      refine ⟨kept, lost ++ [call], List.append_assoc _ _ _, last.trans committed, kept_last, ?_⟩
      rw [noneCommits_append, ← after_append]
      exact ⟨none, commits, trivial⟩

/-- **An error takes back what was done since the last commit.** Whatever index a session is opened
on and whatever is asked of it, failing calls included: if it is left by an error, the next session
sees all rows as they were right after the last call that committed, or as they were at the start if
none did; and if it is left normally, the next session sees the rows as they were at the end. -/
theorem next_session_sees (index : StoredIndex) (calls : List IndexCall) :
    ((start index).after calls).close.open = ((start index).after calls).catalog ∧
    ∃ kept lost, calls = kept ++ lost ∧
      ((start index).after calls).abort.open = ((start index).after kept).catalog ∧
      (kept = [] ∨ (start index).LastCommits kept) ∧
      ((start index).after kept).NoneCommits lost := by
  have ordered := Catalog.ordered_open index
  obtain ⟨seen, committed⟩ := ordered_after (s := start index) ⟨ordered, ordered⟩ calls
  obtain ⟨kept, lost, split, e, last, none⟩ := exists_committed_after (s := start index) rfl calls
  exact ⟨Catalog.open_stored seen, kept, lost, split, (Catalog.open_stored committed).trans e, last,
    none⟩

end Session

end TagSearch
