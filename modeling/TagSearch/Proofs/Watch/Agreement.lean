import Mathlib.Logic.Relation
import TagSearch.Proofs.Watch.Events

/-!
# Watching agrees with scanning

While a directory is watched, the disk changes, each change is reported by an event, and now and
then the changes that wait are applied to the index. Whenever all of them are applied, the files
that are present are those that a scan finds.

* `Observed`: a disk that is watched, the watch, and the session on the index.
* `Observed.Step`: a change of the disk that is reported, or a poll.
* `Agrees` and `Agrees.step`: the present paths would be the listed ones if the queue were applied.
* `watching_agrees_with_scanning`: the agreement after any steps from a fresh scan.
-/

namespace TagSearch

variable {α : Type} {cwd here : Place} {root : PathText} {disk : Node α}

/-- A disk, the watch of a directory on it, and a session on the index of the directory. -/
structure Observed (α : Type) where
  disk : Node α
  watch : Watch
  session : Session

/-- What happens while a directory is watched. -/
inductive Observed.Step (cwd here : Place) : Observed α → Observed α → Prop where
  /-- The disk changes, and the event that reports the change is queued at once. -/
  | change {o : Observed α} {change : DiskChange α} {disk' : Node α} {e : DiskEvent}
    (applied : change.apply o.disk = some disk')
    (changeable : ∀ place ∈ change.places, Changeable here o.watch.root place)
    (watchable : Watchable cwd here o.watch.root disk')
    (reports : Reports here o.watch.root o.disk change e) :
    Step cwd here o ⟨disk', o.watch.dispatch disk' cwd e, o.session⟩
  /-- What is queued is applied to the index. -/
  | poll {o : Observed α} :
    Step cwd here o ⟨o.disk, o.watch.drain.2, (o.session.applyChanges o.watch.drain.1).1⟩

/-- The present paths are the listed ones as soon as the queue is applied. -/
structure Agrees (cwd here : Place) (root : PathText) (o : Observed α) : Prop where
  root_eq : o.watch.root = root
  watchable : Watchable cwd here root o.disk
  consistent : o.session.catalog.Consistent
  present : ∀ path, path ∈ (o.session.catalog.steps o.watch.queue).1.presentPaths ↔
    Listed here o.disk path

theorem Watch.dispatch_eq (w : Watch) (disk : Node α) (cwd : Place) (e : DiskEvent) :
    w.dispatch disk cwd e = ⟨w.root, w.queue ++ Watch.changes disk cwd w.root e⟩ := by
  rw [dispatch]
  generalize changes disk cwd w.root e = changes
  induction changes generalizing w with
  | nil => rw [List.foldl_nil, List.append_nil]
  | cons change changes ih => rw [List.foldl_cons, ih, push, List.append_assoc]; rfl

theorem Session.catalog_applyChanges (s : Session) (events : List Change) :
    (s.applyChanges events).1.catalog = (s.catalog.applyChanges events).1 := by
  rw [applyChanges, settle]
  dsimp only
  split <;> rfl

/-- **Every step keeps the agreement.** -/
theorem Agrees.step (rooted : ∀ name ∈ root.parts, IsPart name) {o o' : Observed α}
    (agrees : Agrees cwd here root o) (step : Observed.Step cwd here o o') :
    Agrees cwd here root o' := by
  obtain ⟨rfl, watchable, consistent, present⟩ := agrees
  cases step with
  | change applied changeable watchable' reports =>
    refine ⟨by rw [Watch.dispatch_eq], watchable', consistent, fun path => ?_⟩
    rw [Watch.dispatch_eq, Catalog.steps_append]
    exact reports.mem_presentPaths_iff (consistent.steps _) rooted watchable watchable' applied
      changeable present
  | poll =>
    refine ⟨rfl, watchable, ?_, fun path => ?_⟩
    · rw [Session.catalog_applyChanges]
      exact consistent.applyChanges _
    · show path ∈ (Session.applyChanges _ _).1.catalog.presentPaths ↔ _
      rw [Session.catalog_applyChanges, Catalog.presentPaths_applyChanges]
      exact present path

/-- **After a scan the paths found are present**, whatever the index was before. -/
theorem Session.mem_presentPaths_build {s : Session} (h : s.catalog.Consistent) (name : String)
    (found : List String) (prune : Bool) {path : String} :
    path ∈ (s.build name found prune).1.catalog.presentPaths ↔ path ∈ found :=
  Catalog.mem_presentPaths_sync h found prune

/-- A fresh scan agrees with the disk. -/
theorem agrees_start {s : Session} (h : s.catalog.Consistent)
    (rooted : ∀ name ∈ root.parts, IsPart name) (watchable : Watchable cwd here root disk)
    {found : List String} (scanned : disk.scanPaths cwd root = .ok found) (prune : Bool) :
    Agrees cwd here root ⟨disk, .start root, (s.build root.toText found prune).1⟩ where
  root_eq := rfl
  watchable := watchable
  consistent := h.scanned root.toText found prune
  present path := by
    obtain ⟨found', scanned', listed⟩ := watchable.exists_scanPaths rooted
    rw [scanned] at scanned'
    obtain rfl := Except.ok.inj scanned'
    exact (s.mem_presentPaths_build h root.toText found prune).trans (listed path)

/-- **Watching agrees with scanning.** Let a directory be scanned into an index, of whatever state,
and then watched. However the disk changes below the directory and across its border, each change
reported when it happened, and whenever the queue is polled meanwhile: after the queue is applied,
the files that are present are those that a scan finds, and a scan into any index would make these
files present. No event is one that cannot be handled. The disk is at all times one on which the
directory can be watched, so that no directory below it has the name of an index file. -/
theorem watching_agrees_with_scanning (rootText : String) {s : Session} (prune : Bool)
    (h : s.catalog.Consistent) (watchable : Watchable cwd here (.ofText rootText) disk) :
    let root := PathText.ofText rootText
    ∃ found, disk.scanPaths cwd root = .ok found ∧
      ∀ o : Observed α,
        Relation.ReflTransGen (Observed.Step cwd here)
          ⟨disk, .start root, (s.build root.toText found prune).1⟩ o →
        ∃ found', o.disk.scanPaths cwd root = .ok found' ∧
          (∀ path, path ∈ (o.session.applyChanges o.watch.drain.1).1.catalog.presentPaths ↔
            path ∈ found') ∧
          (∀ (t : Session) (prune : Bool), t.catalog.Consistent → ∀ path,
            path ∈ (t.build root.toText found' prune).1.catalog.presentPaths ↔ path ∈ found') ∧
          ∀ (change : DiskChange α) (disk' : Node α) (e : DiskEvent),
            change.apply o.disk = some disk' →
            (∀ place ∈ change.places, Changeable here root place) →
            Watchable cwd here root disk' → Reports here root o.disk change e →
            o.watch.fault? disk' cwd e = none := by
  intro root
  have rooted : ∀ name ∈ root.parts, IsPart name := fun _ => PathText.isPart_of_mem_ofText
  obtain ⟨found, scanned, _⟩ := watchable.exists_scanPaths rooted
  refine ⟨found, scanned, fun o run => ?_⟩
  have agrees : Agrees cwd here root o := by
    induction run with
    | refl => exact agrees_start h rooted watchable scanned prune
    | tail _ step ih => exact ih.step rooted step
  obtain ⟨found', scanned', listed⟩ := agrees.watchable.exists_scanPaths rooted
  refine ⟨found', scanned', fun path => ?_, fun t prune h' path => ?_, ?_⟩
  · rw [Session.catalog_applyChanges, Catalog.presentPaths_applyChanges, listed]
    exact agrees.present path
  · exact t.mem_presentPaths_build h' root.toText found' prune
  · intro change disk' e applied changeable watchable' reports
    have watch : o.watch = ⟨root, o.watch.queue⟩ := by rw [← agrees.root_eq]
    rw [watch]
    exact reports.fault?_eq_none rooted watchable' applied changeable _

/-- A directory is moved, the queue is polled, and the directory is moved back. -/
theorem watching_agrees_with_scanning_moved :
    let disk (name : String) : Node Unit := .dir [("r", .dir [(name, .dir [("x", .file ())])])]
    let root := PathText.ofText "/r"
    Session.fresh.catalog.Consistent ∧ Watchable [] ["r"] root (disk "d") ∧
    ∃ found, (disk "d").scanPaths [] root = .ok found ∧
    ∃ o : Observed Unit,
      Relation.ReflTransGen (Observed.Step [] ["r"])
        ⟨disk "d", .start root, (Session.fresh.build root.toText found false).1⟩ o ∧
      o.watch.queue = [⟨.dirMoved, "e", some "d"⟩] ∧
      ∀ path, path ∈ (o.session.applyChanges o.watch.drain.1).1.catalog.presentPaths ↔
        path ∈ ["d/x"] := by
  intro disk root
  have before : Watchable [] ["r"] root (disk "d") :=
    watchable_of_descendants (by simp [disk, Node.proper_dir_iff, Node.IsName]) (by cbv) (by cbv)
      (by cbv)
  have after : Watchable [] ["r"] root (disk "e") :=
    watchable_of_descendants (by simp [disk, Node.proper_dir_iff, Node.IsName]) (by cbv) (by cbv)
      (by cbv)
  have changeable (name : String) (fits : isPathTooLong (root.below [name]).toText = false) :
      Changeable ["r"] root ["r", name] := changeable_below (List.cons_ne_nil name []) fits
  have d := changeable "d" (by cbv)
  have e := changeable "e" (by cbv)
  have named (name text : String) (e : PathText.ofText text = root.below [name]) :
      IsNamed ["r"] root ["r", name] text := isNamed_below e
  have away : Reports ["r"] root (disk "d") (.move ["r", "d"] ["r", "e"])
      ⟨.moved, "/r/d", "/r/e", true⟩ :=
    .moved (by cbv) (named "d" "/r/d" (by cbv)) (named "e" "/r/e" (by cbv))
  have back : Reports ["r"] root (disk "e") (.move ["r", "e"] ["r", "d"])
      ⟨.moved, "/r/e", "/r/d", true⟩ :=
    .moved (by cbv) (named "e" "/r/e" (by cbv)) (named "d" "/r/d" (by cbv))
  obtain ⟨found, scanned, agrees⟩ :=
    watching_agrees_with_scanning (s := .fresh) "/r" false Catalog.consistent_empty before
  let start : Observed Unit :=
    ⟨disk "d", .start root, (Session.fresh.build root.toText found false).1⟩
  let moved : Observed Unit :=
    ⟨disk "e", start.watch.dispatch (disk "e") [] ⟨.moved, "/r/d", "/r/e", true⟩, start.session⟩
  let polled : Observed Unit :=
    ⟨disk "e", moved.watch.drain.2, (moved.session.applyChanges moved.watch.drain.1).1⟩
  let final : Observed Unit :=
    ⟨disk "d", polled.watch.dispatch (disk "d") [] ⟨.moved, "/r/e", "/r/d", true⟩, polled.session⟩
  have watch : polled.watch = .start root := by
    show (Watch.dispatch _ _ _ _).drain.2 = _
    rw [Watch.dispatch_eq]
    rfl
  have first : Observed.Step [] ["r"] start moved :=
    @Observed.Step.change _ _ _ start (.move ["r", "d"] ["r", "e"]) _ _ (by cbv)
      (List.forall_mem_cons.2 ⟨d, List.forall_mem_singleton.2 e⟩) after away
  have second : Observed.Step [] ["r"] moved polled := .poll
  have third : Observed.Step [] ["r"] polled final := by
    refine @Observed.Step.change _ _ _ polled (.move ["r", "e"] ["r", "d"]) _ _ (by cbv) ?_ ?_ ?_
    all_goals rw [watch]
    · exact List.forall_mem_cons.2 ⟨e, List.forall_mem_singleton.2 d⟩
    · exact before
    · exact back
  have run := ((Relation.ReflTransGen.single first).tail second).tail third
  refine ⟨Catalog.consistent_empty, before, found, scanned, final, run, ?_, fun path => ?_⟩
  · have e : Watch.relative? root (.ofText "/r/e") = some "e" := rfl
    have d : Watch.relative? root (.ofText "/r/d") = some "d" := rfl
    show (polled.watch.dispatch (disk "d") [] _).queue = _
    rw [watch, Watch.dispatch_eq]
    show [] ++ Watch.changes (disk "d") [] root _ = _
    rw [List.nil_append, changes_moved e d]
    rfl
  · obtain ⟨found', scanned', present, _⟩ := agrees final run
    have same : Except.ok found' = Except.ok (ε := ScanError) ["d/x"] :=
      scanned'.symm.trans (show (disk "d").scanPaths [] root = .ok ["d/x"] by cbv)
    rw [present path, Except.ok.inj same]

end TagSearch
