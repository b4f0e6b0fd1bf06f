import TagSearch.Proofs.Catalog.Parts

/-!
# Records from one moment to the next

A record is one from the moment when its path is recorded until it goes, under whatever paths it is
recorded meanwhile. At every moment a record is told by the path that it has then, so what becomes
of it can be told without its number, which may be given out again.

* `Moment.follow`: where the record at a path is after a single step.
* `Moment.survives_iff` and `Moment.gone_iff`: a record keeps its number until it goes.
* `Moment.mem_tags_after`: the tags of a record after a moment, from those before it.
* `Moment.keeps_tags` and `Moment.untagged_of_new`: records that only move, and new ones.
-/

namespace TagSearch

/-! ## Moments -/

/-- A moment of a history: the tables before a single step, and the step. -/
structure Moment where
  before : Catalog
  action : IndexAction

namespace Moment

/-- The tables after a moment. -/
def after (m : Moment) : Catalog := m.action.effect m.before

/-- Where the record at a path is after a moment, if it does not go. A scan that prunes takes the
record away if it does not find the path; a move takes it along, or takes it away if it is of
another record and leads to the path. -/
def follow (m : Moment) (path : String) : Option String :=
  match m.action with
  | .build _ found true => if path ∈ found then some path else none
  | .rename old new =>
    if m.before.records old = false then some path
    else if path = old then some new
    else if path = new then none
    else some path
  | _ => some path

/-- The moment is a tagging that is not refused and adds a tag to a path. -/
def Adds (m : Moment) (tag path : String) : Prop :=
  ∃ paths tags r, m.action = .addTags paths tags ∧ m.before.addTags paths tags = .ok r ∧
    tag ∈ tags.map Text.trim ∧ path ∈ paths

/-- The moment is a tagging that is not refused and removes a tag from a path. -/
def Removes (m : Moment) (tag path : String) : Prop :=
  ∃ paths tags r, m.action = .removeTags paths tags ∧ m.before.removeTags paths tags = .ok r ∧
    tag ∈ tags.map Text.trim ∧ path ∈ paths

variable {m : Moment}

theorem follow_eq_none_iff {path : String} :
    m.follow path = none ↔
      (∃ root found, m.action = .build root found true ∧ path ∉ found) ∨
      (∃ old, m.action = .rename old path ∧ old ≠ path ∧ m.before.records old = true) := by
  obtain ⟨c, a⟩ := m
  cases a with
  | build root found prune => cases prune <;> simp [follow]
  | rename old new =>
    by_cases recorded : c.records old = true
    · simp only [follow, recorded]
      grind
    · simp [follow, recorded]
  | _ => simp [follow]

/-! ## Single steps that are no taggings -/

/-- A single step that is no tagging turns the tables by a fate that its records follow. -/
theorem exists_turns (h : m.before.Consistent) (single : m.action.isSingle = true)
    (untagging : m.action.isTagging = false) :
    ∃ fate new, m.before.Turns m.after fate new ∧
      ∀ f : FileRecord, (fate f.standing).map (·.1) = m.follow f.path := by
  obtain ⟨c, a⟩ := m
  cases a with
  | build root found prune =>
    have turns := Catalog.turns_sync h found prune
    refine ⟨_, _, ⟨turns.files, turns.tags⟩, fun f => ?_⟩
    cases prune <;> by_cases mem : f.path ∈ found <;>
      simp [Catalog.scanFate, FileRecord.standing, follow, mem]
  | place path =>
    refine ⟨_, _, Catalog.turns_place h path, fun f => ?_⟩
    by_cases here : f.path = path <;> simp [Catalog.markFate, FileRecord.standing, follow, here]
  | markMissing path =>
    refine ⟨_, _, Catalog.turns_markMissing h path, fun f => ?_⟩
    by_cases here : f.path = path <;> simp [Catalog.markFate, FileRecord.standing, follow, here]
  | rename old new =>
    cases recorded : c.records old with
    | true =>
      refine ⟨_, _, Catalog.turns_rename h new recorded, fun f => ?_⟩
      by_cases here : f.path = old <;> by_cases there : f.path = new <;>
        simp [Catalog.moveFate, FileRecord.standing, follow, recorded, here, there]
    | false =>
      refine ⟨_, _, Catalog.turns_rename_unknown h new recorded, fun f => ?_⟩
      by_cases there : f.path = new <;>
        simp [Catalog.markFate, FileRecord.standing, follow, recorded, there]
  | addTags | removeTags => cases untagging
  | _ => cases single

/-- A single step keeps the tables consistent. -/
theorem consistent_after (h : m.before.Consistent) : m.after.Consistent := h.effect m.action

/-- A tagging leaves the files as they are, and no record goes. -/
theorem files_after (tagging : m.action.isTagging = true) :
    m.after.files = m.before.files ∧ ∀ path, m.follow path = some path := by
  obtain ⟨c, a⟩ := m
  cases a with
  | addTags paths tags =>
    refine ⟨Catalog.after_of_ok (P := fun d => d.files = c.files) rfl fun r added => ?_,
      fun _ => rfl⟩
    obtain ⟨rows, e, _⟩ := Catalog.addTags_withTags added
    rw [e, Catalog.files_withTags]
  | removeTags paths tags =>
    refine ⟨Catalog.after_of_ok (P := fun d => d.files = c.files) rfl fun r removed => ?_,
      fun _ => rfl⟩
    obtain ⟨rows, e, _⟩ := Catalog.removeTags_withTags removed
    rw [e, Catalog.files_withTags]
  | _ => cases tagging

/-! ## Records that stay and records that go -/

/-- **A record keeps its number** while it is followed, and no other record gets it. -/
theorem survives_iff (h : m.before.Consistent) (single : m.action.isSingle = true)
    {f : FileRecord} (hf : f ∈ m.before.files) {path : String} :
    m.follow f.path = some path ↔ ∃ g ∈ m.after.files, g.id = f.id ∧ g.path = path := by
  cases tagging : m.action.isTagging with
  | true =>
    obtain ⟨files, stays⟩ := files_after tagging
    rw [files, stays, Option.some_inj]
    constructor
    · rintro rfl
      exact ⟨f, hf, rfl, rfl⟩
    · rintro ⟨g, hg, id, rfl⟩
      rw [h.eq_of_id hg hf id]
  | false =>
    obtain ⟨fate, new, turns, follows⟩ := exists_turns h single tagging
    rw [← follows, Option.map_eq_some_iff]
    constructor
    · rintro ⟨s, met, rfl⟩
      have meets : f.meet fate = some ⟨f.id, s.1, s.2⟩ :=
        FileRecord.meet_eq_some_iff.2 ⟨met, rfl⟩
      exact ⟨_, turns.mem_files.2 (Or.inl ⟨f, hf, meets⟩), rfl, rfl⟩
    · rintro ⟨g, hg, id, rfl⟩
      rcases turns.mem_files.1 hg with ⟨f', hf', meets⟩ | numbered
      · obtain ⟨met, same⟩ := FileRecord.meet_eq_some_iff.1 meets
        rw [h.eq_of_id hf hf' (id.symm.trans same)]
        exact ⟨_, met, rfl⟩
      · -- New numbers are higher than the number of any record that was there.
        have high := (Catalog.mem_numbered numbered).2.2
        have low := Catalog.id_lt_nextId hf
        omega

/-- **A record goes** only by a scan that prunes and does not find its path, or by the move of
another recorded file to its path. -/
theorem gone_iff (h : m.before.Consistent) (single : m.action.isSingle = true)
    {f : FileRecord} (hf : f ∈ m.before.files) :
    (∀ g ∈ m.after.files, g.id ≠ f.id) ↔
      (∃ root found, m.action = .build root found true ∧ f.path ∉ found) ∨
      (∃ old, m.action = .rename old f.path ∧ old ≠ f.path ∧ m.before.records old = true) := by
  rw [← follow_eq_none_iff, Option.eq_none_iff_forall_ne_some]
  constructor
  · rintro gone path stays
    obtain ⟨g, hg, id, _⟩ := (survives_iff h single hf).1 stays
    exact gone g hg id
  · rintro gone g hg id
    exact gone g.path ((survives_iff h single hf).2 ⟨g, hg, id, rfl⟩)

/-! ## Tags -/

theorem isAt_iff {c : Catalog} (h : c.Consistent) {f : FileRecord} (hf : f ∈ c.files)
    {paths : List String} : c.IsAt f.id paths ↔ f.path ∈ paths := by
  constructor
  · rintro ⟨path, hpath, g, found, id⟩
    obtain ⟨hg, rfl⟩ := Catalog.mem_of_find? found
    rwa [← h.eq_of_id hg hf id]
  · intro mem
    cases found : c.find? f.path with
    | none => exact (Catalog.find?_eq_none_iff.1 found f hf rfl).elim
    | some g =>
      obtain ⟨hg, same⟩ := Catalog.mem_of_find? found
      exact ⟨f.path, mem, g, found, congrArg (·.id) (h.eq_of_path hg hf same)⟩

theorem untagging (tagging : m.action.isTagging = false) {tag path : String} :
    ¬ m.Adds tag path ∧ ¬ m.Removes tag path := by
  constructor
  · rintro ⟨paths, tags, r, e, _⟩
    rw [e] at tagging
    cases tagging
  · rintro ⟨paths, tags, r, e, _⟩
    rw [e] at tagging
    cases tagging

theorem adds_iff {c : Catalog} {paths tags : List String} {r : Catalog × Nat}
    (added : c.addTags paths tags = .ok r) {tag path : String} :
    Adds ⟨c, .addTags paths tags⟩ tag path ↔ tag ∈ tags.map Text.trim ∧ path ∈ paths := by
  constructor
  · rintro ⟨_, _, _, e, _, both⟩
    cases e
    exact both
  · exact fun both => ⟨paths, tags, r, rfl, added, both⟩

theorem removes_iff {c : Catalog} {paths tags : List String} {r : Catalog × Nat}
    (removed : c.removeTags paths tags = .ok r) {tag path : String} :
    Removes ⟨c, .removeTags paths tags⟩ tag path ↔ tag ∈ tags.map Text.trim ∧ path ∈ paths := by
  constructor
  · rintro ⟨_, _, _, e, _, both⟩
    cases e
    exact both
  · exact fun both => ⟨paths, tags, r, rfl, removed, both⟩

/-- A tagging that is refused adds nothing and removes nothing. -/
theorem not_adds_of_refused {c : Catalog} {paths tags : List String} {e : TaggingError}
    (refused : c.addTags paths tags = .error e) {tag path : String} :
    ¬ Adds ⟨c, .addTags paths tags⟩ tag path := by
  rintro ⟨_, _, r, same, ok, _⟩
  cases same
  rw [refused] at ok
  cases ok

theorem not_removes_of_refused {c : Catalog} {paths tags : List String} {e : TaggingError}
    (refused : c.removeTags paths tags = .error e) {tag path : String} :
    ¬ Removes ⟨c, .removeTags paths tags⟩ tag path := by
  rintro ⟨_, _, r, same, ok, _⟩
  cases same
  rw [refused] at ok
  cases ok

/-- What a tagging does to the tags of a record. -/
theorem mem_tags_tagging (h : m.before.Consistent) (tagging : m.action.isTagging = true)
    {f : FileRecord} (hf : f ∈ m.before.files) {tag : String} :
    (f.id, tag) ∈ m.after.tags ↔
      m.Adds tag f.path ∨ ((f.id, tag) ∈ m.before.tags ∧ ¬ m.Removes tag f.path) := by
  obtain ⟨c, a⟩ := m
  cases a with
  | addTags paths tags =>
    have removesNone : ¬ Removes ⟨c, .addTags paths tags⟩ tag f.path := by
      rintro ⟨_, _, _, e, _⟩
      cases e
    cases added : c.addTags paths tags with
    | error e =>
      simp [not_adds_of_refused added, removesNone, after, IndexAction.effect, added, Catalog.after]
    | ok r =>
      have result : after ⟨c, .addTags paths tags⟩ = r.1 := by
        simp only [after, IndexAction.effect, added, Catalog.after]
      rw [result, Catalog.mem_tags_addTags added, isAt_iff h hf, adds_iff added]
      simp only [removesNone, not_false_eq_true, and_true]
      exact or_comm
  | removeTags paths tags =>
    have addsNone : ¬ Adds ⟨c, .removeTags paths tags⟩ tag f.path := by
      rintro ⟨_, _, _, e, _⟩
      cases e
    cases removed : c.removeTags paths tags with
    | error e =>
      simp [addsNone, not_removes_of_refused removed, after, IndexAction.effect, removed,
        Catalog.after]
    | ok r =>
      have result : after ⟨c, .removeTags paths tags⟩ = r.1 := by
        simp only [after, IndexAction.effect, removed, Catalog.after]
      rw [result, Catalog.mem_tags_removeTags removed, isAt_iff h hf, removes_iff removed]
      simp only [addsNone, false_or]
  | _ => cases tagging

/-- **The tags of a record after a moment**: a tag is there if the moment adds it to the path of the
record, or if it was there and the moment does not remove it from that path. -/
theorem mem_tags_after (h : m.before.Consistent) (single : m.action.isSingle = true)
    {g : FileRecord} (hg : g ∈ m.after.files) {tag : String} :
    (g.id, tag) ∈ m.after.tags ↔
      m.Adds tag g.path ∨
      ∃ f ∈ m.before.files, (f.id, tag) ∈ m.before.tags ∧ m.follow f.path = some g.path ∧
        ¬ m.Removes tag f.path := by
  cases tagging : m.action.isTagging with
  | true =>
    obtain ⟨files, stays⟩ := files_after tagging
    rw [files] at hg
    rw [mem_tags_tagging h tagging hg]
    refine or_congr_right ⟨fun ⟨had, kept⟩ => ⟨g, hg, had, stays g.path, kept⟩, ?_⟩
    rintro ⟨f, hf, had, same, kept⟩
    rw [stays, Option.some_inj] at same
    obtain rfl := h.eq_of_path hf hg same
    exact ⟨had, kept⟩
  | false =>
    have inert {path : String} : ¬ m.Adds tag path ∧ ¬ m.Removes tag path := untagging tagging
    obtain ⟨fate, new, turns, follows⟩ := exists_turns h single tagging
    rw [turns.mem_tags]
    simp only [inert.1, inert.2, false_or, not_false_eq_true, and_true]
    constructor
    · rintro ⟨had, f, hf, id, stays⟩
      refine ⟨f, hf, id ▸ had, ?_⟩
      obtain ⟨s, met⟩ := Option.isSome_iff_exists.1 stays
      have followed : m.follow f.path = some s.1 := by rw [← follows, met, Option.map_some]
      obtain ⟨g', hg', id', path⟩ := (survives_iff h single hf).1 followed
      rw [followed, ← path, (consistent_after h).eq_of_id hg' hg (id'.trans id)]
    · rintro ⟨f, hf, had, followed⟩
      obtain ⟨g', hg', id, path⟩ := (survives_iff h single hf).1 followed
      obtain rfl := (consistent_after h).eq_of_path hg' hg path
      rw [← follows, Option.map_eq_some_iff] at followed
      obtain ⟨s, met, _⟩ := followed
      exact ⟨id ▸ had, f, hf, id.symm, by rw [met]; rfl⟩

/-- **A new record has no tags**, also under a number that was in use before. -/
theorem untagged_of_new (h : m.before.Consistent) (single : m.action.isSingle = true)
    {g : FileRecord} (hg : g ∈ m.after.files) (new : ∀ f ∈ m.before.files, f.id ≠ g.id)
    {tag : String} : (g.id, tag) ∉ m.after.tags := by
  rw [mem_tags_after h single hg]
  rintro (⟨paths, tags, r, e, _⟩ | ⟨f, hf, _, followed, _⟩)
  · have tagging : m.action.isTagging = true := by rw [e]; rfl
    rw [(files_after tagging).1] at hg
    exact new g hg rfl
  · obtain ⟨g', hg', id, path⟩ := (survives_iff h single hf).1 followed
    obtain rfl := (consistent_after h).eq_of_path hg' hg path
    exact new f hf id.symm

/-- **A record keeps its tags** in a moment that is no tagging, unless it goes. -/
theorem keeps_tags (h : m.before.Consistent) (single : m.action.isSingle = true)
    (inert : m.action.isTagging = false) {f g : FileRecord} (hf : f ∈ m.before.files)
    (hg : g ∈ m.after.files) (id : g.id = f.id) {tag : String} :
    (g.id, tag) ∈ m.after.tags ↔ (f.id, tag) ∈ m.before.tags := by
  obtain ⟨fate, new, turns, _⟩ := exists_turns h single inert
  have stays : (fate f.standing).isSome = true := by
    rcases turns.mem_files.1 hg with ⟨f', hf', meets⟩ | numbered
    · obtain ⟨met, same⟩ := FileRecord.meet_eq_some_iff.1 meets
      rw [h.eq_of_id hf hf' (id.symm.trans same), met]
      rfl
    · -- A new record has a higher number.
      have high := (Catalog.mem_numbered numbered).2.2
      have low := Catalog.id_lt_nextId hf
      omega
  rw [turns.mem_tags, id]
  exact ⟨And.left, fun had => ⟨had, f, hf, rfl, stays⟩⟩

/-- A tagging that is not refused is on paths that are recorded. -/
theorem exists_of_adds {tag path : String} (adds : m.Adds tag path) :
    ∃ g ∈ m.after.files, g.path = path := by
  obtain ⟨paths, tags, r, e, added, _, hpath⟩ := adds
  have tagging : m.action.isTagging = true := by rw [e]; rfl
  obtain ⟨_, _, _, hids, _⟩ := Catalog.addTags_eq_ok_iff.1 added
  obtain ⟨id, _, there⟩ := exists_result_of_mapM hids hpath
  rw [(files_after tagging).1]
  cases found : m.before.find? path with
  | none =>
    rw [found] at there
    cases there
  | some g => exact ⟨g, Catalog.mem_of_find? found⟩

end Moment

end TagSearch
