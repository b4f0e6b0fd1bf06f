import Mathlib.Data.List.DropRight
import TagSearch.Proofs.Watch.Agreement

/-!
# The queue of a watch

Several agents use the queue of a watch. Some queue the changes of events, one change after the
other, and some take all that is queued. One lock guards the queue: an agent has it while it looks
at the queue and puts another queue in its place, and it gives it back between two changes of the
same event. What happens is recorded, so that the queue can be compared with what was put in and
taken out before.

* `SharedWatch`: a watch with its lock, the stages of the agents, and the history.
* `SharedWatch.Step`: one agent goes on to its next stage.
* `Exclusive`: an agent is inside when it has the lock, and what it has seen is still so.
* `Recorded`: the queue holds what was put in after the last drain.
* `queue_keeps_every_change`: no change is lost, taken twice or taken in another order.
-/

namespace TagSearch

namespace SharedWatch

/-- What is recorded about a queue and its agents. -/
inductive Record (ι : Type) where
  /-- An agent begins to queue some changes. -/
  | begun (agent : ι) (changes : List Change)
  /-- An agent puts a change into the queue. -/
  | pushed (agent : ι) (change : Change)
  /-- An agent takes what is queued. -/
  | drained (agent : ι) (taken : List Change)
  deriving DecidableEq, Repr

/-- What an agent needs the lock for. -/
inductive Job where
  /-- It puts a change into the queue, and has more to queue afterwards. -/
  | push (change : Change) (rest : List Change)
  /-- It takes what is queued. -/
  | drain
  deriving DecidableEq, Repr

/-- What an agent with a job has still to queue. -/
def Job.pending : Job → List Change
  | .push change rest => change :: rest
  | .drain => []

/-- The stage that an agent is in. -/
inductive Stage where
  /-- It does not have the lock, and has still to queue some changes. -/
  | outside (rest : List Change)
  /-- It has the lock. -/
  | entered (job : Job)
  /-- It has the lock and has looked at the watch. -/
  | seen (job : Job) (watch : Watch)
  /-- It has the lock, and its job is done. -/
  | leaving (rest : List Change)
  deriving DecidableEq, Repr

namespace Stage

/-- The stages of an agent with the lock. -/
def IsInside : Stage → Prop
  | .outside _ => False
  | _ => True

/-- What an agent has still to queue. -/
def pending : Stage → List Change
  | .outside rest => rest
  | .entered job => job.pending
  | .seen job _ => job.pending
  | .leaving rest => rest

end Stage

end SharedWatch

/-- A watch that several agents use. -/
structure SharedWatch (ι : Type) where
  watch : Watch
  /-- The agent that has the lock. -/
  lock : Option ι
  stage : ι → SharedWatch.Stage
  /-- What happened so far. -/
  history : List (SharedWatch.Record ι)

namespace SharedWatch

variable {ι : Type}

/-- A watch that nobody has used. -/
def start (root : PathText) : SharedWatch ι := ⟨.start root, none, fun _ => .outside [], []⟩

/-! ## Histories -/

namespace Record

/-- The agent that a record is about. -/
def agent : Record ι → ι
  | .begun i _ | .pushed i _ | .drained i _ => i

/-- The changes that the agent begins to queue. -/
def found : Record ι → List Change
  | .begun _ changes => changes
  | _ => []

/-- Whether a record is about a drain. -/
def isDrain : Record ι → Bool
  | .drained _ _ => true
  | _ => false

/-- The change that is put into the queue. -/
def pushed? : Record ι → Option Change
  | .pushed _ change => some change
  | _ => none

/-- The changes that are taken. -/
def taken? : Record ι → Option (List Change)
  | .drained _ taken => some taken
  | _ => none

end Record

variable {history : List (Record ι)} {r : Record ι}

/-- All changes that were put into the queue. -/
def pushes (history : List (Record ι)) : List Change := history.filterMap Record.pushed?

/-- The lists of changes that were taken. -/
def drains (history : List (Record ι)) : List (List Change) := history.filterMap Record.taken?

/-- The changes that were put into the queue after the last drain. -/
def waiting (history : List (Record ι)) : List Change :=
  pushes (history.rtakeWhile fun r => !r.isDrain)

/-- Every drain took what was put into the queue after the one before it. -/
def IsExact (history : List (Record ι)) : Prop :=
  ∀ before i taken after, history = before ++ .drained i taken :: after → taken = waiting before

theorem pushes_concat : pushes (history ++ [r]) = pushes history ++ r.pushed?.toList := by
  cases known : r.pushed? <;> simp [pushes, known]

theorem drains_concat : drains (history ++ [r]) = drains history ++ r.taken?.toList := by
  cases known : r.taken? <;> simp [drains, known]

theorem waiting_concat :
    waiting (history ++ [r]) = if r.isDrain then [] else waiting history ++ r.pushed?.toList := by
  rw [waiting, List.rtakeWhile_concat]
  cases r.isDrain with
  | true => rfl
  | false => exact pushes_concat

/-- A history stays exact unless a drain takes something else. -/
theorem IsExact.concat (exact : IsExact history)
    (last : ∀ i taken, r = .drained i taken → taken = waiting history) :
    IsExact (history ++ [r]) := by
  intro before i taken after split
  rcases List.eq_nil_or_concat after with rfl | ⟨after, r', rfl⟩
  · obtain ⟨rfl, same⟩ := List.append_inj' split rfl
    exact last i taken (List.singleton_inj.1 same)
  · have earlier : history ++ [r] = before ++ .drained i taken :: after ++ [r'] := by
      simpa using split
    exact exact before i taken after (List.append_inj' earlier rfl).1

theorem IsExact.of_concat (exact : IsExact (history ++ [r])) :
    IsExact history ∧ ∀ i taken, r = .drained i taken → taken = waiting history := by
  refine ⟨fun before i taken after split => exact before i taken (after ++ [r]) ?_, ?_⟩
  · rw [split, List.append_assoc, List.cons_append]
  · rintro i taken rfl
    exact exact history i taken [] rfl

/-- **What was taken and what waits are all changes**, in the order in which they were put into the
queue. -/
theorem IsExact.flatten_drains (exact : IsExact history) :
    (drains history).flatten ++ waiting history = pushes history := by
  induction history using List.reverseRecOn with
  | nil => rfl
  | append_singleton history r ih =>
    obtain ⟨before, last⟩ := exact.of_concat
    rw [pushes_concat, ← ih before, drains_concat, waiting_concat]
    cases r with
    | begun | pushed => simp [Record.isDrain, Record.taken?, Record.pushed?]
    | drained i taken => simp [Record.isDrain, Record.taken?, Record.pushed?, last i taken rfl]

/-- All changes that were to be put into the queue. -/
def begun (history : List (Record ι)) : List Change := history.flatMap Record.found

theorem begun_concat : begun (history ++ [r]) = begun history ++ r.found := by
  simp [begun]

/-- What is recorded about one agent. -/
def own [DecidableEq ι] (i : ι) (history : List (Record ι)) : List (Record ι) :=
  history.filter (·.agent = i)

theorem own_concat [DecidableEq ι] (i : ι) :
    own i (history ++ [r]) = if r.agent = i then own i history ++ [r] else own i history := by
  by_cases same : r.agent = i <;> simp [own, same]

/-! ## Steps -/

variable [DecidableEq ι] {s s' : SharedWatch ι} {i : ι} {lock : Option ι} {watch : Watch}
  {stage : Stage}

/-- The watch after an agent went on to another stage. -/
def after (s : SharedWatch ι) (i : ι) (lock : Option ι) (watch : Watch) (stage : Stage)
    (records : List (Record ι)) : SharedWatch ι :=
  ⟨watch, lock, Function.update s.stage i stage, s.history ++ records⟩

/-- One agent goes on to its next stage. -/
inductive Step : SharedWatch ι → SharedWatch ι → Prop where
  /-- The changes of an event are found. -/
  | begin {s : SharedWatch ι} {i : ι} (changes : List Change) (idle : s.stage i = .outside []) :
    Step s (s.after i s.lock s.watch (.outside changes) [.begun i changes])
  /-- The lock is taken, to put the next change into the queue or to take what is queued. -/
  | enter {s : SharedWatch ι} {i : ι} (job : Job) (ready : s.stage i = .outside job.pending)
      (free : s.lock = none) :
    Step s (s.after i (some i) s.watch (.entered job) [])
  /-- The watch is looked at. -/
  | look {s : SharedWatch ι} {i : ι} {job : Job} (entered : s.stage i = .entered job) :
    Step s (s.after i s.lock s.watch (.seen job s.watch) [])
  /-- The watch that was seen gets a change, and replaces the watch. -/
  | push {s : SharedWatch ι} {i : ι} {change : Change} {rest : List Change} {w : Watch}
      (seen : s.stage i = .seen (.push change rest) w) :
    Step s (s.after i s.lock (w.push change) (.leaving rest) [.pushed i change])
  /-- The queue that was seen is taken, and an empty one replaces it. -/
  | drain {s : SharedWatch ι} {i : ι} {w : Watch} (seen : s.stage i = .seen .drain w) :
    Step s (s.after i s.lock w.drain.2 (.leaving []) [.drained i w.drain.1])
  /-- The lock is given back. -/
  | leave {s : SharedWatch ι} {i : ι} {rest : List Change} (leaving : s.stage i = .leaving rest) :
    Step s (s.after i none s.watch (.outside rest) [])

@[simp] theorem stage_after (s : SharedWatch ι) (i : ι) (records : List (Record ι)) :
    (s.after i lock watch stage records).stage i = stage := by
  simp [after]

@[simp] theorem after_after (s : SharedWatch ι) (i : ι) (lock lock' : Option ι)
    (watch watch' : Watch) (stage stage' : Stage) (records records' : List (Record ι)) :
    (s.after i lock watch stage records).after i lock' watch' stage' records' =
      s.after i lock' watch' stage' (records ++ records') := by
  simp [after]

/-! ### The lock -/

/-- An agent has the lock while it is inside, and what it has seen is still so. -/
structure Exclusive (s : SharedWatch ι) : Prop where
  inside_iff : ∀ i, (s.stage i).IsInside ↔ s.lock = some i
  current : ∀ i job w, s.stage i = .seen job w → w = s.watch

omit [DecidableEq ι] in
theorem exclusive_start (root : PathText) : (start root : SharedWatch ι).Exclusive :=
  ⟨fun _ => ⟨False.elim, nofun⟩, nofun⟩

/-- An agent goes on. Whether another one has the lock stays as it is, and nobody outside changes
the watch. -/
theorem Exclusive.after (exclusive : s.Exclusive) (records : List (Record ι))
    (here : stage.IsInside ↔ lock = some i)
    (others : ∀ j ≠ i, lock = some j ↔ s.lock = some j)
    (seen : ∀ job w, stage = .seen job w → w = watch)
    (changed : watch = s.watch ∨ (s.stage i).IsInside) :
    (s.after i lock watch stage records).Exclusive := by
  refine ⟨fun j => ?_, fun j job w looked => ?_⟩
  · by_cases agent : j = i
    · subst agent
      rw [stage_after]
      exact here
    · simp only [SharedWatch.after, Function.update_of_ne agent, others j agent]
      exact exclusive.inside_iff j
  · by_cases agent : j = i
    · subst agent
      rw [stage_after] at looked
      exact seen job w looked
    · simp only [SharedWatch.after, Function.update_of_ne agent] at looked
      rcases changed with same | inside
      · rw [exclusive.current j job w looked]
        exact same.symm
      · -- two agents inside have the same lock
        have locked := (exclusive.inside_iff j).1 (by simp [looked, Stage.IsInside])
        have locked' := (exclusive.inside_iff i).1 inside
        exact absurd (Option.some.inj (locked.symm.trans locked')) agent

/-- An agent goes on inside. -/
theorem Exclusive.after_inside (exclusive : s.Exclusive) (records : List (Record ι))
    (inside : (s.stage i).IsInside) (still : stage.IsInside)
    (seen : ∀ job w, stage = .seen job w → w = watch) :
    (s.after i s.lock watch stage records).Exclusive := by
  have locked := (exclusive.inside_iff i).1 inside
  exact exclusive.after records (iff_of_true still locked) (fun _ _ => Iff.rfl) seen (Or.inr inside)

/-- **Every step keeps the lock exclusive.** -/
theorem Exclusive.step (exclusive : s.Exclusive) (step : Step s s') : s'.Exclusive := by
  cases step with
  | @begin i changes idle =>
    have outside := exclusive.inside_iff i
    rw [idle] at outside
    exact exclusive.after _ outside (fun _ _ => Iff.rfl) nofun (Or.inl rfl)
  | @enter i job ready free =>
    refine exclusive.after _ (iff_of_true trivial rfl) (fun j agent => ?_) nofun (Or.inl rfl)
    rw [free]
    exact iff_of_false (fun same => agent (Option.some.inj same).symm) nofun
  | @look i job entered =>
    refine exclusive.after_inside _ (by simp [entered, Stage.IsInside]) trivial ?_
    rintro _ _ ⟨⟩
    rfl
  | push seen => exact exclusive.after_inside _ (by simp [seen, Stage.IsInside]) trivial nofun
  | drain seen => exact exclusive.after_inside _ (by simp [seen, Stage.IsInside]) trivial nofun
  | @leave i rest leaving =>
    have locked := (exclusive.inside_iff i).1 (by simp [leaving, Stage.IsInside])
    refine exclusive.after _ ⟨False.elim, nofun⟩ (fun j agent => ?_) nofun (Or.inl rfl)
    rw [locked]
    exact iff_of_false nofun fun same => agent (Option.some.inj same).symm

/-! ### The record -/

/-- The queue holds what was put in after the last drain, every drain took what was put in before
it, and every agent has put in what it began to queue, but for what it has still to queue. -/
structure Recorded (s : SharedWatch ι) : Prop where
  queue : s.watch.queue = waiting s.history
  exact : IsExact s.history
  begun : ∀ i, begun (own i s.history) = pushes (own i s.history) ++ (s.stage i).pending

theorem recorded_start (root : PathText) : (start root : SharedWatch ι).Recorded :=
  ⟨rfl, fun before _ _ _ split => by simp [start] at split, fun _ => rfl⟩

/-- An agent goes on without a record, and has as much to queue as before. -/
theorem Recorded.after_nil (recorded : s.Recorded) (lock : Option ι)
    (same : stage.pending = (s.stage i).pending) :
    (s.after i lock s.watch stage []).Recorded := by
  unfold after
  rw [List.append_nil]
  refine ⟨recorded.queue, recorded.exact, fun j => ?_⟩
  by_cases agent : j = i
  · subst agent
    simpa [same] using recorded.begun j
  · simpa [agent] using recorded.begun j

/-- An agent goes on, and this is recorded. -/
theorem Recorded.after_singleton (recorded : s.Recorded) {r : Record ι} (lock : Option ι)
    (queue : watch.queue = waiting (s.history ++ [r]))
    (last : ∀ j taken, r = .drained j taken → taken = waiting s.history) (agent : r.agent = i)
    (moved : (s.stage i).pending ++ r.found = r.pushed?.toList ++ stage.pending) :
    (s.after i lock watch stage [r]).Recorded := by
  refine ⟨queue, recorded.exact.concat last, fun j => ?_⟩
  have before := recorded.begun j
  by_cases same : j = i
  · subst same
    simp only [after, own_concat, if_pos agent, begun_concat, pushes_concat, Function.update_self]
    rw [before, List.append_assoc, moved, List.append_assoc]
  · have other : ¬ r.agent = j := fun e => same (e.symm.trans agent)
    simp only [after, own_concat, if_neg other, Function.update_of_ne same]
    exact before

/-- **Every step keeps the record.** -/
theorem Recorded.step (recorded : s.Recorded) (exclusive : s.Exclusive) (step : Step s s') :
    s'.Recorded := by
  cases step with
  | @begin i changes idle =>
    refine recorded.after_singleton _ ?_ nofun rfl ?_
    · rw [recorded.queue, waiting_concat]
      simp [Record.isDrain, Record.pushed?]
    · simp [idle, Stage.pending, Record.found, Record.pushed?]
  | @enter i job ready free => exact recorded.after_nil _ (by simp [ready, Stage.pending])
  | @look i job entered => exact recorded.after_nil _ (by simp [entered, Stage.pending])
  | @push i change rest w seen =>
    obtain rfl := exclusive.current i _ w seen
    refine recorded.after_singleton _ ?_ nofun rfl ?_
    · rw [Watch.push, recorded.queue, waiting_concat]
      rfl
    · simp [seen, Stage.pending, Job.pending, Record.found, Record.pushed?]
  | @drain i w seen =>
    obtain rfl := exclusive.current i _ w seen
    refine recorded.after_singleton _ ?_ ?_ rfl ?_
    · rw [Watch.drain, waiting_concat]
      rfl
    · rintro j taken ⟨⟩
      exact recorded.queue
    · simp [seen, Stage.pending, Job.pending, Record.found, Record.pushed?]
  | @leave i rest leaving => exact recorded.after_nil _ (by simp [leaving, Stage.pending])

/-! ## Runs -/

/-- **Every run keeps the lock exclusive and the record.** -/
theorem exclusive_and_recorded_of_run {root : PathText}
    (run : Relation.ReflTransGen Step (start root) s) : s.Exclusive ∧ s.Recorded := by
  induction run with
  | refl => exact ⟨exclusive_start root, recorded_start root⟩
  | tail _ step ih => exact ⟨ih.1.step step, ih.2.step ih.1 step⟩

/-- An agent that is not disturbed puts one change into the queue. -/
theorem run_push {change : Change} {rest : List Change} (free : s.lock = none)
    (ready : s.stage i = .outside (change :: rest)) :
    Relation.ReflTransGen Step s
      (s.after i none (s.watch.push change) (.outside rest) [.pushed i change]) := by
  have run := (((Relation.ReflTransGen.single
    (Step.enter (.push change rest) ready free)).tail
    (.look (stage_after ..))).tail (.push (stage_after ..))).tail (.leave (stage_after ..))
  simpa [after] using run

/-- An agent that is not disturbed takes what is queued. -/
theorem run_drain (free : s.lock = none) (ready : s.stage i = .outside []) :
    Relation.ReflTransGen Step s
      (s.after i none s.watch.drain.2 (.outside []) [.drained i s.watch.drain.1]) := by
  have run := (((Relation.ReflTransGen.single (Step.enter .drain ready free)).tail
    (.look (stage_after ..))).tail (.drain (stage_after ..))).tail (.leave (stage_after ..))
  simpa [after] using run

/-- An agent that is not disturbed puts all its changes into the queue. -/
theorem run_pushes {changes : List Change} (free : s.lock = none)
    (ready : s.stage i = .outside changes) :
    Relation.ReflTransGen Step s
      (s.after i none (changes.foldl Watch.push s.watch) (.outside [])
        (changes.map (.pushed i))) := by
  induction changes generalizing s with
  | nil =>
    have same : s.after i none s.watch (.outside []) [] = s := by
      rw [after, ← ready, ← free, Function.update_eq_self, List.append_nil]
    rw [List.foldl_nil, List.map_nil, same]
  | cons change changes ih =>
    have rest := ih (s := s.after i none (s.watch.push change) (.outside changes)
      [.pushed i change]) rfl (stage_after ..)
    rw [after_after] at rest
    exact (run_push free ready).trans rest

/-- **An agent that is not disturbed dispatches an event.** -/
theorem run_dispatch {α : Type} (disk : Node α) (cwd : Place) (e : DiskEvent) (free : s.lock = none)
    (idle : s.stage i = .outside []) :
    let changes := Watch.changes disk cwd s.watch.root e
    Relation.ReflTransGen Step s
      (s.after i none (s.watch.dispatch disk cwd e) (.outside [])
        (.begun i changes :: changes.map (.pushed i))) := by
  intro changes
  have begin := Step.begin changes idle
  have pushes := run_pushes (s := s.after i s.lock s.watch (.outside changes) [.begun i changes])
    free (stage_after ..)
  rw [after_after] at pushes
  exact pushes.head begin

/-- **The queue keeps every change.** Several agents use a watch that nobody used before, and take
turns in any way, also between two changes of the same event, and while one of them has the lock.

* The changes that were taken, and then those that are queued, are all changes that were put into
  the queue, in this order.
* Every drain took what was put into the queue after the drain before it.
* Every agent has put in what it was to put in, in this order, but for what it has still to queue.
* An agent that is not disturbed dispatches an event, or drains the queue. -/
theorem queue_keeps_every_change {root : PathText}
    (run : Relation.ReflTransGen Step (start root) s) :
    (drains s.history).flatten ++ s.watch.queue = pushes s.history ∧
    (∀ before i taken after, s.history = before ++ .drained i taken :: after →
      taken = pushes (before.rtakeWhile fun r => !r.isDrain)) ∧
    (∀ i, begun (own i s.history) = pushes (own i s.history) ++ (s.stage i).pending) ∧
    ∀ i, s.lock = none → s.stage i = .outside [] →
      (∀ {α : Type} (disk : Node α) (cwd : Place) (e : DiskEvent), ∃ s',
        Relation.ReflTransGen Step s s' ∧ s'.watch = s.watch.dispatch disk cwd e ∧
        let changes := Watch.changes disk cwd s.watch.root e
        s'.history = s.history ++ .begun i changes :: changes.map (.pushed i)) ∧
      ∃ s', Relation.ReflTransGen Step s s' ∧ s'.watch = s.watch.drain.2 ∧
        s'.history = s.history ++ [.drained i s.watch.drain.1] := by
  obtain ⟨-, recorded⟩ := exclusive_and_recorded_of_run run
  refine ⟨?_, recorded.exact, recorded.begun, fun i free idle => ⟨fun disk cwd e => ?_, ?_⟩⟩
  · rw [recorded.queue]
    exact recorded.exact.flatten_drains
  · exact ⟨_, run_dispatch disk cwd e free idle, rfl, rfl⟩
  · exact ⟨_, run_drain free idle, rfl, rfl⟩

/-- A directory with two files, which appears in a watched one. -/
def twoFiles : Node Unit :=
  .dir [("r", .dir [("d", .dir [("x", .file ()), ("y", .file ())])])]

theorem changes_twoFiles :
    Watch.changes twoFiles [] (.ofText "/r") ⟨.created, "/r/d", "", true⟩ =
      [⟨.created, "d/x", none⟩, ⟨.created, "d/y", none⟩] := by
  have dir : Watch.relative? (.ofText "/r") (.ofText "/r/d") = some "d" := rfl
  have scanned : twoFiles.scanPaths [] (.ofText "/r/d") = .ok ["x", "y"] := by cbv
  have x : Watch.relative? (.ofText "/r") ((PathText.ofText "/r/d").join (.ofText "x")) =
      some "d/x" := rfl
  have y : Watch.relative? (.ofText "/r") ((PathText.ofText "/r/d").join (.ofText "y")) =
      some "d/y" := rfl
  have le : "d/x" ≤ "d/y" := by decide
  have sorted : (["d/x", "d/y"].mergeSort fun a b => decide (a ≤ b)) = ["d/x", "d/y"] := by
    simp [List.mergeSort, List.MergeSort.Internal.splitInTwo, le]
  simp only [Watch.changes, Watch.appearing?, dir, Bool.not_true, Bool.false_eq_true, if_false,
    Watch.appeared, scanned, List.filterMap_cons, x, y, List.filterMap_nil, sorted, List.map_cons,
    List.map_nil]

/-- One agent queues the two files, and another one drains the queue between them. -/
theorem queue_keeps_every_change_between :
    let x : Change := ⟨.created, "d/x", none⟩
    let y : Change := ⟨.created, "d/y", none⟩
    ∃ s : SharedWatch Bool, Relation.ReflTransGen Step (start (.ofText "/r")) s ∧
      s.history =
        [.begun true (Watch.changes twoFiles [] (.ofText "/r") ⟨.created, "/r/d", "", true⟩),
          .pushed true x, .drained false [x], .pushed true y] ∧
      (drains s.history).flatten ++ s.watch.queue = [x, y] := by
  intro x y
  let found : SharedWatch Bool :=
    (start (.ofText "/r")).after true none (.start (.ofText "/r")) (.outside [x, y])
      [.begun true [x, y]]
  let pushed := found.after true none (found.watch.push x) (.outside [y]) [.pushed true x]
  let drained := pushed.after false none pushed.watch.drain.2 (.outside [])
    [.drained false pushed.watch.drain.1]
  let final := drained.after true none (drained.watch.push y) (.outside []) [.pushed true y]
  have begins : Step (start (.ofText "/r")) found := .begin [x, y] rfl
  have first : Relation.ReflTransGen Step found pushed := run_push rfl rfl
  have between : Relation.ReflTransGen Step pushed drained := run_drain rfl rfl
  have second : Relation.ReflTransGen Step drained final := run_push rfl rfl
  have run := ((first.trans between).trans second).head begins
  obtain ⟨kept, -⟩ := queue_keeps_every_change run
  rw [changes_twoFiles]
  exact ⟨final, run, rfl, kept⟩

end SharedWatch

end TagSearch
