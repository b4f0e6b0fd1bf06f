import TagSearch.Proofs.Catalog.Moments

/-!
# The history of a record

A record has a tag if the last tagging that named the tag, and the path that the record had then,
added it. A history of the tables is a list of single steps, and a record is followed through it
under the paths that it has one after the other.

* `TaggedIn`: the last tagging of a record in a history added a tag.
* `Chain.mem_tags_iff`: the tags of a record, from the history of the tables.
* `Session.tags_follow_records`: the tags of every record after every run within a session.
-/

namespace TagSearch

/-! ## Histories -/

/-- Where the record at a path is after some moments, if it does not go. -/
def follow : List Moment → String → Option String
  | [], path => some path
  | m :: history, path => (m.follow path).bind (follow history)

/-- No tagging removes a tag from the record at a path, under the path that it then has. -/
def Untouched (history : List Moment) (tag path : String) : Prop :=
  ∀ earlier m later, history = earlier ++ m :: later →
    ∀ p, follow earlier path = some p → ¬ m.Removes tag p

/-- A tagging added a tag to the record that is at a path in the end, under the path that it had at
that moment, and no later one removed the tag from it. -/
def TaggedIn (history : List Moment) (tag path : String) : Prop :=
  ∃ earlier m later p, history = earlier ++ m :: later ∧ m.Adds tag p ∧
    follow later p = some path ∧ Untouched later tag p

section

variable {m : Moment} {history : List Moment} {tag path : String}

theorem untouched_nil : Untouched [] tag path := by
  rintro earlier m later e
  cases earlier <;> cases e

theorem untouched_cons : Untouched (m :: history) tag path ↔
    ¬ m.Removes tag path ∧ ∀ p, m.follow path = some p → Untouched history tag p := by
  constructor
  · intro h
    refine ⟨h [] m history rfl path rfl, fun p followed earlier m' later e q there => ?_⟩
    refine h (m :: earlier) m' later (by rw [e, List.cons_append]) q ?_
    rw [follow, followed, Option.bind_some, there]
  · rintro ⟨now, afterwards⟩ earlier m' later e q there
    cases earlier with
    | nil =>
      cases e
      cases there
      exact now
    | cons _ earlier =>
      obtain ⟨rfl, rfl⟩ := List.cons.inj e
      obtain ⟨p, followed, there⟩ := Option.bind_eq_some_iff.1 there
      exact afterwards p followed earlier m' later rfl q there

theorem not_taggedIn_nil : ¬ TaggedIn [] tag path := by
  rintro ⟨earlier, m, later, p, e, _⟩
  cases earlier <;> cases e

theorem taggedIn_cons : TaggedIn (m :: history) tag path ↔
    (∃ p, m.Adds tag p ∧ follow history p = some path ∧ Untouched history tag p) ∨
    TaggedIn history tag path := by
  constructor
  · rintro ⟨earlier, m', later, p, e, rest⟩
    cases earlier with
    | nil =>
      cases e
      exact Or.inl ⟨p, rest⟩
    | cons _ earlier =>
      obtain ⟨rfl, rfl⟩ := List.cons.inj e
      exact Or.inr ⟨earlier, m', later, p, rfl, rest⟩
  · rintro (⟨p, rest⟩ | ⟨earlier, m', later, p, e, rest⟩)
    · exact ⟨[], m, history, p, rfl, rest⟩
    · exact ⟨m :: earlier, m', later, p, by rw [e, List.cons_append], rest⟩

/-- The moments lead from some tables to others: the files and the tags are before each moment what
they were after the last one. -/
inductive Chain : Catalog → List Moment → Catalog → Prop where
  | nil {c d : Catalog} (rows : c.SameRows d) : Chain c [] d
  | cons {c d : Catalog} {m : Moment} {history : List Moment} (rows : c.SameRows m.before)
      (rest : Chain m.after history d) : Chain c (m :: history) d

/-- The moments are single steps from consistent tables. -/
def Stepwise (history : List Moment) : Prop :=
  ∀ m ∈ history, m.action.isSingle = true ∧ m.before.Consistent

/-- **The tags of a record at the end of a history**: those that the history added and did not
remove, and of those that the record had at the start, the ones that the history did not remove. -/
theorem Chain.mem_tags_iff {c d : Catalog} (chain : Chain c history d) (h : c.Consistent)
    (stepwise : Stepwise history) {f : FileRecord} (hf : f ∈ d.files) :
    (f.id, tag) ∈ d.tags ↔
      TaggedIn history tag f.path ∨
      ∃ g ∈ c.files, (g.id, tag) ∈ c.tags ∧ follow history g.path = some f.path ∧
        Untouched history tag g.path := by
  induction chain with
  | @nil c d rows =>
    rw [rows.1] at hf
    rw [rows.2]
    constructor
    · exact fun had => Or.inr ⟨f, hf, had, rfl, untouched_nil⟩
    · rintro (tagged | ⟨g, hg, had, same, _⟩)
      · exact (not_taggedIn_nil tagged).elim
      · rwa [← h.eq_of_path hg hf (Option.some.inj same)]
  | @cons c d m history rows _ ih =>
    obtain ⟨single, before⟩ := stepwise m List.mem_cons_self
    rw [ih (Moment.consistent_after before) (fun m' hm' => stepwise m' (List.mem_cons_of_mem _ hm'))
      hf, taggedIn_cons, ← rows.1, ← rows.2]
    constructor
    · rintro (tagged | ⟨g, hg, had, followed, untouched⟩)
      · exact Or.inl (Or.inr tagged)
      · rcases (Moment.mem_tags_after before single hg).1 had with
          adds | ⟨f', hf', had, stays, kept⟩
        · exact Or.inl (Or.inl ⟨g.path, adds, followed, untouched⟩)
        · refine Or.inr ⟨f', hf', had, by rw [follow, stays, Option.bind_some, followed], ?_⟩
          rw [untouched_cons, stays]
          exact ⟨kept, fun p e => Option.some.inj e ▸ untouched⟩
    · rintro ((⟨p, adds, followed, untouched⟩ | tagged) | ⟨f', hf', had, followed, untouched⟩)
      · obtain ⟨g, hg, rfl⟩ := Moment.exists_of_adds adds
        exact Or.inr ⟨g, hg, (Moment.mem_tags_after before single hg).2 (Or.inl adds), followed,
          untouched⟩
      · exact Or.inl tagged
      · obtain ⟨p, stays, followed⟩ := Option.bind_eq_some_iff.1 followed
        obtain ⟨kept, untouched⟩ := untouched_cons.1 untouched
        obtain ⟨g, hg, _, rfl⟩ := (Moment.survives_iff before single hf').1 stays
        exact Or.inr ⟨g, hg,
          (Moment.mem_tags_after before single hg).2 (Or.inr ⟨f', hf', had, stays, kept⟩), followed,
          untouched _ stays⟩

end

/-! ## The history of a run -/

namespace Catalog

variable {c d e : Catalog}

/-- The moments of single steps taken one after the other. -/
def moments (c : Catalog) : List IndexAction → List Moment
  | [] => []
  | a :: actions => ⟨c, a⟩ :: (a.effect c).moments actions

/-- The history of the tables under some actions, by the single steps that they consist of. -/
def history (c : Catalog) : List IndexAction → List Moment
  | [] => []
  | a :: actions => c.moments (a.parts c) ++ (a.effect c).history actions

theorem SameRows.refl (c : Catalog) : c.SameRows c := ⟨rfl, rfl⟩

theorem SameRows.trans (h : c.SameRows d) (h' : d.SameRows e) : c.SameRows e :=
  ⟨h'.1.trans h.1, h'.2.trans h.2⟩

theorem chain_moments (c : Catalog) (actions : List IndexAction) :
    Chain c (c.moments actions) (c.runOn actions) := by
  induction actions generalizing c with
  | nil => exact .nil (.refl c)
  | cons a actions ih => exact .cons (.refl c) (ih (a.effect c))

theorem stepwise_moments (h : c.Consistent) {actions : List IndexAction}
    (single : ∀ a ∈ actions, a.isSingle = true) : Stepwise (c.moments actions) := by
  induction actions generalizing c with
  | nil => exact List.forall_mem_nil _
  | cons a actions ih =>
    obtain ⟨first, others⟩ := List.forall_mem_cons.1 single
    exact List.forall_mem_cons.2 ⟨⟨first, h⟩, ih (h.effect a) others⟩

end Catalog

namespace Chain

variable {c d e : Catalog} {history later : List Moment}

theorem of_sameRows (rows : c.SameRows d) (chain : Chain d history e) : Chain c history e := by
  cases chain with
  | nil rows' => exact .nil (rows.trans rows')
  | cons rows' rest => exact .cons (rows.trans rows') rest

theorem append (first : Chain c history d) (second : Chain d later e) :
    Chain c (history ++ later) e := by
  induction first with
  | nil rows => exact second.of_sameRows rows
  | cons rows _ ih => exact .cons rows (ih second)

/-- **The history of a run** leads from the tables at the start to those at the end. -/
theorem of_run (h : c.Consistent) {actions : List IndexAction}
    (inside : ∀ a ∈ actions, a.staysOpen = true) :
    Chain c (c.history actions) (c.runOn actions) := by
  induction actions generalizing c with
  | nil => exact .nil (.refl c)
  | cons a actions ih =>
    obtain ⟨now, afterwards⟩ := List.forall_mem_cons.1 inside
    exact (c.chain_moments (a.parts c)).append
      ((ih (h.effect a) afterwards).of_sameRows (Catalog.sameRows_parts h now))

end Chain

theorem Catalog.stepwise_history {c : Catalog} (h : c.Consistent) {actions : List IndexAction}
    (inside : ∀ a ∈ actions, a.staysOpen = true) : Stepwise (c.history actions) := by
  induction actions generalizing c with
  | nil => exact List.forall_mem_nil _
  | cons a actions ih =>
    obtain ⟨now, afterwards⟩ := List.forall_mem_cons.1 inside
    exact List.forall_mem_append.2
      ⟨stepwise_moments h fun _ => a.isSingle_of_mem_parts now, ih (h.effect a) afterwards⟩

namespace Session

variable {s : Session}

theorem catalog_counted (s : Session) (x : Except TaggingError (Catalog × Nat)) :
    (s.counted (x.map s.settle)).1.catalog = s.catalog.after x := by
  rcases counted_cases s x with e | e <;> rw [e]

/-- Within a session the tables in use are never taken back. -/
theorem catalog_perform {a : IndexAction} (inside : a.staysOpen = true) :
    (s.perform a).1.catalog = a.effect s.catalog := by
  cases a with
  | applyChanges events => exact s.catalog_counted (.ok (s.catalog.applyChanges events))
  | addTags | removeTags => exact s.catalog_counted _
  | reopen | abort => cases inside
  | _ => rfl

theorem catalog_run {actions : List IndexAction} (inside : ∀ a ∈ actions, a.staysOpen = true) :
    (s.run actions).catalog = s.catalog.runOn actions := by
  induction actions generalizing s with
  | nil => rfl
  | cons a actions ih =>
    obtain ⟨now, afterwards⟩ := List.forall_mem_cons.1 inside
    rw [run_cons, ih afterwards, catalog_perform now]
    rfl

/-- **Tags follow their records.** Within a session on a new index, whatever is done:

* A record has a tag if and only if some tagging added it to the path that the record had at that
  moment, and no later one removed it from the path that the record had then.
* Records keep their numbers as long as they are followed. A record goes only by a scan that prunes
  and does not find its path, or by the move of another recorded file to its path.
* What is no tagging changes no tag of a record that does not go.
* A new record has no tags, whatever number it gets. -/
theorem tags_follow_records {actions : List IndexAction}
    (inside : ∀ a ∈ actions, a.staysOpen = true) :
    let history := Catalog.empty.history actions
    let final := (fresh.run actions).catalog
    Chain .empty history final ∧
    (∀ f ∈ final.files, ∀ tag, (f.id, tag) ∈ final.tags ↔ TaggedIn history tag f.path) ∧
    ∀ m ∈ history, m.action.isSingle = true ∧
      (∀ f ∈ m.before.files,
        (∀ path, m.follow f.path = some path ↔ ∃ g ∈ m.after.files, g.id = f.id ∧ g.path = path) ∧
        ((∀ g ∈ m.after.files, g.id ≠ f.id) ↔
          (∃ root found, m.action = .build root found true ∧ f.path ∉ found) ∨
          (∃ old, m.action = .rename old f.path ∧ old ≠ f.path ∧ m.before.records old = true))) ∧
      (m.action.isTagging = false →
        ∀ f ∈ m.before.files, ∀ g ∈ m.after.files, g.id = f.id →
          ∀ tag, (g.id, tag) ∈ m.after.tags ↔ (f.id, tag) ∈ m.before.tags) ∧
      ∀ g ∈ m.after.files, (∀ f ∈ m.before.files, f.id ≠ g.id) →
        ∀ tag, (g.id, tag) ∉ m.after.tags := by
  intro history final
  have chain : Chain .empty history final := by
    rw [show final = Catalog.empty.runOn actions from catalog_run inside]
    exact .of_run Catalog.consistent_empty inside
  have stepwise : Stepwise history := Catalog.stepwise_history Catalog.consistent_empty inside
  refine ⟨chain, fun f hf tag => ?_, fun m hm => ?_⟩
  · rw [chain.mem_tags_iff Catalog.consistent_empty stepwise hf]
    refine or_iff_left ?_
    rintro ⟨g, hg, _⟩
    cases hg
  · obtain ⟨single, before⟩ := stepwise m hm
    exact ⟨single,
      fun f hf => ⟨fun _ => Moment.survives_iff before single hf, Moment.gone_iff before single hf⟩,
      fun inert f hf g hg id tag => Moment.keeps_tags before single inert hf hg id,
      fun g hg new tag => Moment.untagged_of_new before single hg new⟩

/-- A file that is tagged, moves, and is tagged again: one tag stays with the file, another is
removed from it, and the file that is scanned at the old path afterwards has no tags. -/
theorem tags_follow_records_moved :
    let actions : List IndexAction :=
      [.build "r" ["a"] false, .addTags ["a"] [" x ", "y"], .rename "a" "b",
        .removeTags ["b"] ["y"], .build "r" ["a", "b"] false]
    let history := Catalog.empty.history actions
    let final := (fresh.run actions).catalog
    (∀ a ∈ actions, a.staysOpen = true) ∧
    final.files = [⟨1, "b", true⟩, ⟨2, "a", true⟩] ∧ final.tags = [(1, "x")] ∧
    TaggedIn history "x" "b" ∧ ¬ TaggedIn history "y" "b" ∧ ¬ TaggedIn history "x" "a" := by
  intro actions history final
  have inside : ∀ a ∈ actions, a.staysOpen = true := by decide
  have files : final.files = [⟨1, "b", true⟩, ⟨2, "a", true⟩] := by decide +kernel
  have tags : final.tags = [(1, "x")] := by decide +kernel
  obtain ⟨_, tagged, _⟩ := tags_follow_records inside
  have moved : (⟨1, "b", true⟩ : FileRecord) ∈ final.files := by simp [files]
  have new : (⟨2, "a", true⟩ : FileRecord) ∈ final.files := by simp [files]
  refine ⟨inside, files, tags, (tagged _ moved "x").1 ?_, fun h => ?_, fun h => ?_⟩
  · rw [show (fresh.run actions).catalog.tags = [(1, "x")] from tags]
    exact List.mem_singleton_self _
  · have had := (tagged _ moved "y").2 h
    rw [show (fresh.run actions).catalog.tags = [(1, "x")] from tags] at had
    exact absurd had (by decide)
  · have had := (tagged _ new "x").2 h
    rw [show (fresh.run actions).catalog.tags = [(1, "x")] from tags] at had
    exact absurd had (by decide)

end Session

end TagSearch
