import TagSearch.Proofs.Catalog.Renumbering
import TagSearch.Proofs.Catalog.Search

/-!
# What can be seen of the numbers

Nothing that an index replies depends on the numbers of its files. Two indexes that are alike, the
same under other numbers, reply alike to scans, changes and taggings and are alike afterwards, and
searches and counts see the same in both.

* `Catalog.Alike`: two catalogs are the same under other numbers.
* `Catalog.Alike.search_paths`, `Catalog.Alike.listTags`, …: what is seen of alike catalogs.
* `Session.perform_alike` and `Session.run_alike_and_replies_eq`: one action and any number of them.
* `Session.numbers_unobservable`: what is done and seen under other numbers.
-/

namespace TagSearch

namespace Catalog

/-- The numbers of the recorded files. -/
def ids (c : Catalog) : Set Int := {i | ∃ f ∈ c.files, f.id = i}

/-- Two catalogs, each consistent and with a token table that mirrors the tags, are the same under
other numbers. -/
structure Alike (c d : Catalog) : Prop where
  left : c.Consistent ∧ c.Mirrored
  right : d.Consistent ∧ d.Mirrored
  numbers : ∃ σ : Int → Int, Set.BijOn σ c.ids d.ids ∧
    d.files.Perm (c.files.map (·.renumber σ)) ∧
    d.tags.Perm (c.tags.map (renumberTag σ)) ∧
    d.tokens.Perm (c.tokens.map fun row => (row.1, σ row.2))

variable {c d : Catalog}

/-- Catalogs that match are alike if they are as they should be. -/
theorem Matches.alike {σ : Int → Int} (h : Matches σ c d) (left : c.Consistent ∧ c.Mirrored)
    (right : d.Consistent ∧ d.Mirrored) : Alike c d := by
  refine ⟨left, right, σ, ⟨?_, ?_, ?_⟩, h.files, h.tags, ?_⟩
  · rintro _ ⟨f, hf, rfl⟩
    exact ⟨_, h.renumber_mem hf, rfl⟩
  · rintro _ ⟨f, hf, rfl⟩ _ ⟨g, hg, rfl⟩ e
    exact h.injective f hf g hg e
  · rintro _ ⟨g, hg, rfl⟩
    obtain ⟨f, hf, rfl⟩ := h.exists_of_mem hg
    exact ⟨f.id, ⟨f, hf, rfl⟩, rfl⟩
  · have rows := h.tags.map fun t => (Text.hex t.2, t.1)
    have mirrored := left.2.map fun row : String × Int => (row.1, σ row.2)
    rw [List.map_map] at rows mirrored
    exact (right.2.trans rows).trans mirrored.symm

/-! ## Limits -/

theorem takeLimit_map {α β : Type} (g : α → β) (limit : Option Int) (items : List α) :
    takeLimit limit (items.map g) = (takeLimit limit items).map (·.map g) := by
  cases limit with
  | none => rfl
  | some n =>
    rw [takeLimit, takeLimit]
    split
    · rfl
    · split
      · rfl
      · rw [Except.map, List.map_take]

namespace Alike

theorem exists_matches (h : Alike c d) : ∃ σ, Matches σ c d := by
  obtain ⟨σ, numbers, files, tags, _⟩ := h.numbers
  exact ⟨σ, fun f hf g hg e => numbers.injOn ⟨f, hf, rfl⟩ ⟨g, hg, rfl⟩ e, files, tags⟩

/-! ## Searches and counts -/

/-- **A search finds the same paths**, or is refused for the same reason. -/
theorem search_paths (h : Alike c d) (e : Expr) (m : PathMatch) (limit : Option Int) :
    (d.search e m limit).map (·.map (·.path)) = (c.search e m limit).map (·.map (·.path)) := by
  obtain ⟨σ, same⟩ := h.exists_matches
  have found : ∀ f ∈ c.files,
      (Predicate.ofExpr m e).holds d (f.renumber σ) = (Predicate.ofExpr m e).holds c f := by
    intro f hf
    rw [Bool.eq_iff_iff, Predicate.holds_ofExpr_iff, Predicate.holds_ofExpr_iff]
    refine Expr.holds_congr fun t _ => ?_
    cases t with
    | inPath pattern => exact Iff.rfl
    | tag name =>
      show d.hasToken (tagToken name) (σ f.id) = true ↔ c.hasToken (tagToken name) f.id = true
      rw [hasToken_iff h.right.1 h.right.2, hasToken_iff h.left.1 h.left.2, same.tags.mem_iff,
        List.mem_map]
      constructor
      · rintro ⟨t, ht, e⟩
        obtain ⟨number, rfl⟩ := Prod.mk.inj e
        rwa [(same.id_eq_iff h.left.1 hf ht).1 number.symm]
      · exact fun mem => ⟨_, mem, rfl⟩
  rw [search, search, ← takeLimit_map, ← takeLimit_map, select, select, map_path_pick,
    map_path_pick]
  refine congrArg _ (sort_eq_of_perm (((same.files.filter _).map _).trans (.of_eq ?_)))
  rw [List.filter_map, List.map_map]
  refine congrArg _ (List.filter_congr found)

theorem names (h : Alike c d) : (d.tags.map (·.2)).Perm (c.tags.map (·.2)) := by
  obtain ⟨σ, same⟩ := h.exists_matches
  have := same.tags.map (·.2)
  rwa [List.map_map] at this

/-- **A tag is counted the same.** -/
theorem countTagged (h : Alike c d) (name : String) : d.countTagged name = c.countTagged name := by
  have counts : ∀ c : Catalog, c.countTagged name = (c.tags.map (·.2)).countP (· == name) := by
    intro c
    rw [List.countP_map]
    rfl
  rw [counts, counts, h.names.countP_eq]

/-- **The same tags are listed** with the same counts. -/
theorem listTags (h : Alike c d) : d.listTags = c.listTags := by
  have distinct : (d.tags.map (·.2)).eraseDups.Perm (c.tags.map (·.2)).eraseDups := by
    refine (List.perm_ext_iff_of_nodup (nodup_eraseDups _) (nodup_eraseDups _)).2 fun name => ?_
    rw [List.mem_eraseDups, List.mem_eraseDups, h.names.mem_iff]
  rw [Catalog.listTags, Catalog.listTags, sort_eq_of_perm distinct]
  exact List.map_congr_left fun name _ => by rw [h.countTagged]

end Alike

end Catalog

/-! ## Actions -/

/-- A scan, a tagging, or changes none of which moves a directory into itself or to one that it
lies in. -/
def IndexAction.IsRegular : IndexAction → Prop
  | .build _ _ _ | .addTags _ _ | .removeTags _ _ => True
  | .applyChanges events => ∀ e ∈ events, e.IsApart
  | _ => False

namespace Session

variable {s t : Session}

/-- The replies to some actions. -/
def replies (s : Session) : List IndexAction → List Reply
  | [] => []
  | a :: actions => (s.perform a).2 :: (s.perform a).1.replies actions

/-- Taggings and changes with the same outcome leave sessions alike, with the same reply. -/
theorem counted_alike (h : s.catalog.Alike t.catalog)
    {x y : Except TaggingError (Catalog × Nat)} (same : Catalog.SameOutcome x y)
    (left : ∀ r, x = .ok r → r.1.Consistent ∧ r.1.Mirrored)
    (right : ∀ r, y = .ok r → r.1.Consistent ∧ r.1.Mirrored) :
    (s.counted (x.map s.settle)).1.catalog.Alike (t.counted (y.map t.settle)).1.catalog ∧
    (s.counted (x.map s.settle)).2 = (t.counted (y.map t.settle)).2 ∧
    (s.committed.Alike t.committed →
      (s.counted (x.map s.settle)).1.committed.Alike (t.counted (y.map t.settle)).1.committed) := by
  cases same with
  | error e => exact ⟨h, rfl, id⟩
  | @ok r r' σ tables count =>
    have alike := tables.alike (left r rfl) (right r' rfl)
    simp only [Except.map, counted, settle, count]
    split
    · exact ⟨alike, trivial, id⟩
    · exact ⟨alike, trivial, fun _ => alike⟩

/-- **One action leaves sessions alike**, with the same reply. -/
theorem perform_alike (h : s.catalog.Alike t.catalog) {a : IndexAction} (regular : a.IsRegular) :
    (s.perform a).1.catalog.Alike (t.perform a).1.catalog ∧
    (s.perform a).2 = (t.perform a).2 ∧
    (s.committed.Alike t.committed →
      (s.perform a).1.committed.Alike (t.perform a).1.committed) := by
  obtain ⟨σ, same⟩ := h.exists_matches
  obtain ⟨⟨hs, ms⟩, ⟨ht, mt⟩⟩ := And.intro h.left h.right
  cases a with
  | build root found prune =>
    have tables := same.scanned hs ht root found prune
    have alike := tables.alike
      ⟨hs.scanned root found prune, Catalog.mirrored_scanned s.catalog root found prune⟩
      ⟨ht.scanned root found prune, Catalog.mirrored_scanned t.catalog root found prune⟩
    exact ⟨alike, congrArg Reply.count tables.presentCount_eq.symm, fun _ => alike⟩
  | applyChanges events =>
    obtain ⟨τ, tables, count⟩ := same.applyChanges hs ht regular
    refine counted_alike (x := .ok _) (y := .ok _) h (.ok τ tables count) ?_ ?_
    · rintro r e
      obtain rfl := Except.ok.inj e
      exact ⟨hs.applyChanges events, ms.applyChanges events⟩
    · rintro r e
      obtain rfl := Except.ok.inj e
      exact ⟨ht.applyChanges events, mt.applyChanges events⟩
  | addTags paths tags =>
    exact counted_alike h (same.addTags hs ht paths tags)
      (fun r added => ⟨hs.addTags added, ms.addTags added⟩)
      fun r added => ⟨ht.addTags added, mt.addTags added⟩
  | removeTags paths tags =>
    exact counted_alike h (same.removeTags hs ht paths tags)
      (fun r removed => ⟨hs.removeTags removed, ms.removeTags removed⟩)
      fun r removed => ⟨ht.removeTags removed, mt.removeTags removed⟩
  | place | markMissing | rename | markDirMissing | renameDir | refreshTokens | reopen | abort =>
    exact regular.elim

theorem run_alike_and_replies_eq {actions : List IndexAction}
    (regular : ∀ a ∈ actions, a.IsRegular) (h : s.catalog.Alike t.catalog) :
    (s.run actions).catalog.Alike (t.run actions).catalog ∧
    s.replies actions = t.replies actions ∧
    (s.committed.Alike t.committed →
      (s.run actions).committed.Alike (t.run actions).committed) := by
  induction actions generalizing s t with
  | nil => exact ⟨h, rfl, id⟩
  | cons a actions ih =>
    obtain ⟨alike, reply, committed⟩ := perform_alike h (regular a List.mem_cons_self)
    obtain ⟨after, rest, still⟩ := ih (fun b hb => regular b (List.mem_cons_of_mem _ hb)) alike
    exact ⟨after, by rw [replies, replies, reply, rest], fun h => still (committed h)⟩

/-- **The numbers of files cannot be seen.** Two indexes that are the same under other numbers reply
the same to scans, changes and taggings, refusals included, and are the same under other numbers
afterwards. Searches find the same paths in both, and tags are listed and counted the same. -/
theorem numbers_unobservable (alike : s.catalog.Alike t.catalog) {actions : List IndexAction}
    (regular : ∀ a ∈ actions, a.IsRegular) :
    (s.run actions).catalog.Alike (t.run actions).catalog ∧
    (s.committed.Alike t.committed →
      (s.run actions).committed.Alike (t.run actions).committed) ∧
    s.replies actions = t.replies actions ∧
    (∀ e m limit, ((s.run actions).catalog.search e m limit).map (·.map (·.path)) =
      ((t.run actions).catalog.search e m limit).map (·.map (·.path))) ∧
    (s.run actions).catalog.listTags = (t.run actions).catalog.listTags ∧
    ∀ name, (s.run actions).catalog.countTagged name =
      (t.run actions).catalog.countTagged name := by
  obtain ⟨after, replies, committed⟩ := run_alike_and_replies_eq regular alike
  exact ⟨after, committed, replies, fun e m limit => (after.search_paths e m limit).symm,
    after.listTags.symm, fun name => (after.countTagged name).symm⟩

/-- A directory moves over a missing file, a scan that prunes finds a new file, and both are tagged:
the numbers are other ones and in the other order, and so is the order of the rows. -/
theorem numbers_unobservable_exchanged :
    let c := Catalog.refreshTokens
      ⟨[⟨1, "d/x", true⟩, ⟨2, "e/x", false⟩], [(1, "t"), (2, "u")], [], none⟩
    let d := Catalog.refreshTokens
      ⟨[⟨3, "e/x", false⟩, ⟨7, "d/x", true⟩], [(7, "t"), (3, "u")], [], none⟩
    let s : Session := ⟨c, c⟩
    let t : Session := ⟨d, d⟩
    let actions : List IndexAction :=
      [.applyChanges [⟨.dirMoved, "d", some "e"⟩], .build "root" ["e/x", "n"] true,
        .addTags ["n", "e/x"] ["v"]]
    s.catalog.Alike t.catalog ∧ (∀ a ∈ actions, a.IsRegular) ∧
    (s.run actions).catalog.Alike (t.run actions).catalog ∧
    (s.committed.Alike t.committed →
      (s.run actions).committed.Alike (t.run actions).committed) ∧
    s.replies actions = t.replies actions ∧
    (∀ e m limit, ((s.run actions).catalog.search e m limit).map (·.map (·.path)) =
      ((t.run actions).catalog.search e m limit).map (·.map (·.path))) ∧
    (s.run actions).catalog.listTags = (t.run actions).catalog.listTags ∧
    ∀ name, (s.run actions).catalog.countTagged name =
      (t.run actions).catalog.countTagged name := by
  intro c d s t actions
  have hc : c.Consistent :=
    ⟨by decide, by decide, by decide, by decide, by decide, by decide⟩
  have hd : d.Consistent :=
    ⟨by decide, by decide, by decide, by decide, by decide, by decide⟩
  have same : Catalog.Matches (fun i => if i = 1 then 7 else 3) c d :=
    ⟨by decide, by decide, by decide⟩
  have alike : c.Alike d :=
    same.alike ⟨hc, Catalog.mirrored_refreshTokens _⟩ ⟨hd, Catalog.mirrored_refreshTokens _⟩
  have apart : ∀ e ∈ [Change.mk .dirMoved "d" (some "e")], e.IsApart := by decide
  have regular : ∀ a ∈ actions, a.IsRegular :=
    List.forall_mem_cons.2
      ⟨apart, List.forall_mem_cons.2 ⟨trivial, List.forall_mem_singleton.2 trivial⟩⟩
  exact ⟨alike, regular, numbers_unobservable alike regular⟩

end Session

end TagSearch
