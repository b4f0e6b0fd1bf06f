import TagSearch.Proofs.Disk.Resolve

/-!
# Files that come and go

Where there is neither a directory nor a link, a file may be put or taken away. The directories and
links of the disk stay, and with them every way through links.

* `Node.get?_put_eq_some_iff` and `Node.get?_erase_eq_some_iff`: files and links elsewhere stay.
* `Node.exists_put`: a node can be put into every directory.
* `Node.SameFrame`: two disks have the same directories and links.
* `Node.SameFrame.put` and `Node.SameFrame.erase`: so do disks before and after a file is put or
  taken away.
* `Node.SameFrame.resolveFrom`: what is resolved is the same on both.
-/

namespace TagSearch.Node

variable {α : Type} {n n' disk disk' disk'' : Node α} {p q : Place}

/-! ## What stays elsewhere -/

theorem get?_put_eq_some_iff {new m : Node α} (h : n.put p new = some n') (apart : ¬ p <+: q)
    (leaf : m.isDir = false) : n'.get? q = some m ↔ n.get? q = some m := by
  by_cases above : q <+: p
  · -- On the way to the place are directories, before and after.
    have dir := isDir_of_put h above fun e => apart (e ▸ List.prefix_rfl)
    have dir' := (kind?_put h apart).trans dir
    refine iff_of_false (fun found => ?_) fun found => ?_
    · rw [kind?, found, Option.map_some, leaf] at dir'
      cases dir'
    · rw [kind?, found, Option.map_some, leaf] at dir
      cases dir
  · rw [get?_put_of_apart h apart above]

theorem get?_erase_eq_some_iff {m : Node α} (apart : ¬ p <+: q) (leaf : m.isDir = false) :
    (n.erase p).get? q = some m ↔ n.get? q = some m := by
  have noDir (es : List (String × Node α)) : get? (.dir es) [] ≠ some m := by
    rintro e
    rw [get?_nil] at e
    rw [← Option.some.inj e] at leaf
    cases leaf
  fun_induction Node.erase n p generalizing q with
  | case1 => exact (apart List.nil_prefix).elim
  | case2 es k =>
    cases q with
    | nil => exact iff_of_false (noDir _) (noDir _)
    | cons k' q =>
      have other : k' ≠ k := fun e => apart (e ▸ List.prefix_append [k'] q)
      rw [get?, get?, lookup_filter_ne, if_neg other]
  | case3 es k k' rest m' found ih =>
    cases q with
    | nil => exact iff_of_false (noDir _) (noDir _)
    | cons k'' q =>
      rw [get?, get?, lookup_setEntry]
      by_cases same : k'' = k
      · subst same
        rw [if_pos rfl, found, Option.bind_some, Option.bind_some]
        exact ih fun below => apart (List.cons_prefix_cons.2 ⟨rfl, below⟩)
      · rw [if_neg same]
  | case4 | case5 => exact Iff.rfl

/-- A disk stays proper if something is taken away. -/
theorem Proper.erase (h : n.Proper) (p : Place) : (n.erase p).Proper := by
  fun_induction Node.erase n p with
  | case1 => exact h
  | case2 es k =>
    obtain ⟨distinct, names, below⟩ := proper_dir_iff.1 h
    refine proper_dir_iff.2 ⟨distinct.sublist (List.filter_sublist.map _), fun e he => ?_,
      fun e he => ?_⟩
    · exact names e (List.mem_of_mem_filter he)
    · exact below e (List.mem_of_mem_filter he)
  | case3 es k k' rest m found ih =>
    obtain ⟨distinct, names, _⟩ := proper_dir_iff.1 h
    have there : (dir es).get? [k] = some m := by rw [get?, found, Option.bind_some, get?_nil]
    exact h.setEntry (names _ ((lookup_eq_some_iff distinct).1 found)) (ih (h.of_get? there))
  | case4 | case5 => exact h

/-- A disk stays sound if something is taken away. -/
theorem Sound.erase (h : n.Sound) (p : Place) : (n.erase p).Sound := by
  refine ⟨h.proper.erase p, fun q t link => ?_⟩
  by_cases hp : p = []
  · rw [hp, Node.erase] at link
    exact h.targets q t link
  · by_cases below : p <+: q
    · obtain ⟨r, rfl⟩ := below
      rw [get?_erase hp] at link
      cases link
    · exact h.targets q t ((get?_erase_eq_some_iff below rfl).1 link)

/-- Something can be put into every directory. -/
theorem exists_put (dir : n.kind? p = some true) (k : String) (new : Node α) :
    ∃ n', n.put (p ++ [k]) new = some n' := by
  induction p generalizing n with
  | nil =>
    obtain ⟨es, top⟩ := exists_of_isDir dir
    rw [get?_nil] at top
    obtain rfl := Option.some.inj top
    exact ⟨_, rfl⟩
  | cons k' p ih =>
    cases n with
    | dir es =>
      obtain ⟨es', found⟩ := exists_of_isDir dir
      obtain ⟨m, there, below⟩ := Option.bind_eq_some_iff.1 (get?.eq_2 es k' p ▸ found)
      obtain ⟨m', put⟩ := ih (n := m) (by rw [kind?, below]; rfl)
      obtain ⟨k'', rest, e⟩ :=
        List.exists_cons_of_ne_nil (List.append_ne_nil_of_right_ne_nil p (List.cons_ne_nil k []))
      refine ⟨.dir (setEntry k' m' es), ?_⟩
      rw [List.cons_append, e, Node.put, ← e, there]
      show (m.put (p ++ [k]) new).bind _ = _
      rw [put]
      rfl
    | file | link => cases dir

/-! ## Disks with the same directories and links -/

/-- Two disks have the same directories and the same links. -/
structure SameFrame (disk disk' : Node α) : Prop where
  dirs : ∀ p, disk.kind? p = some true ↔ disk'.kind? p = some true
  links : disk.SameLinks disk'
  proper : disk.Proper → disk'.Proper

/-- There is neither a directory nor a link at a place. -/
def IsFree (disk : Node α) (p : Place) : Prop :=
  disk.kind? p ≠ some true ∧ ∀ t, disk.get? p ≠ some (.link t)

theorem isFree_of_leaf (h : ∀ m, disk.get? p = some m → ∃ a, m = .file a) : disk.IsFree p := by
  refine ⟨fun dir => ?_, fun t link => ?_⟩
  · obtain ⟨es, found⟩ := exists_of_isDir dir
    obtain ⟨a, e⟩ := h _ found
    cases e
  · obtain ⟨a, e⟩ := h _ link
    cases e

theorem isFree_of_file {a : α} (found : disk.get? p = some (.file a)) : disk.IsFree p :=
  isFree_of_leaf fun _ there => ⟨a, (Option.some.inj (found.symm.trans there)).symm⟩

/-- Below such a place there is nothing. -/
theorem IsFree.append (free : disk.IsFree p) (q : Place) : disk.IsFree (p ++ q) := by
  by_cases hq : q = []
  · rwa [hq, List.append_nil]
  · have nothing := kind?_below free.1 hq
    refine ⟨fun dir => ?_, fun t link => ?_⟩
    · rw [nothing] at dir
      cases dir
    · rw [kind?, link] at nothing
      cases nothing

namespace SameFrame

theorem refl (disk : Node α) : disk.SameFrame disk := ⟨fun _ => Iff.rfl, .refl disk, id⟩

theorem trans (h : disk.SameFrame disk') (h' : disk'.SameFrame disk'') : disk.SameFrame disk'' :=
  ⟨fun p => (h.dirs p).trans (h'.dirs p), h.links.trans h'.links, h'.proper ∘ h.proper⟩

theorem symm (h : disk.SameFrame disk') (proper : disk.Proper) : disk'.SameFrame disk :=
  ⟨fun p => (h.dirs p).symm, fun p t => (h.links p t).symm, fun _ => proper⟩

/-- Paths lead where they led. -/
theorem grows (h : disk.SameFrame disk') : disk.Grows disk' where
  links := h.links
  dirs := fun p => (h.dirs p).1
  sound := fun s => ⟨h.proper s.proper, fun p t link => s.targets p t ((h.links p t).2 link)⟩

theorem isFree (h : disk.SameFrame disk') (free : disk.IsFree p) : disk'.IsFree p :=
  ⟨fun dir => free.1 ((h.dirs p).2 dir), fun t link => free.2 t ((h.links p t).2 link)⟩

/-- **A file may be put** where there is neither a directory nor a link. -/
theorem put {a : α} (put : disk.put p (.file a) = some disk') (free : disk.IsFree p)
    (names : ∀ name ∈ p, IsName name) : disk.SameFrame disk' := by
  have leaf (q : Place) (t : String) : (Node.file a).get? q ≠ some (.link t) := by
    cases q with
    | nil => rintro ⟨⟩
    | cons k q => rintro ⟨⟩
  have grows := Grows.of_put put free.1 free.2 leaf (proper_file a) names
  refine ⟨fun q => ⟨grows.dirs q, fun dir => ?_⟩, grows.links, fun h =>
    h.put put (proper_file a) names⟩
  by_cases below : p <+: q
  · obtain ⟨r, rfl⟩ := below
    rw [kind?, get?_put put] at dir
    cases r <;> cases dir
  · rwa [kind?_put put below] at dir

/-- **Anything may be taken away** that is neither a directory nor a link. -/
theorem erase (hp : p ≠ []) (free : disk.IsFree p) : disk.SameFrame (disk.erase p) := by
  refine ⟨fun q => ?_, fun q t => ?_, fun h => h.erase p⟩
  all_goals by_cases below : p <+: q
  · obtain ⟨r, rfl⟩ := below
    refine iff_of_false (free.append r).1 fun dir => ?_
    rw [kind?, get?_erase hp] at dir
    cases dir
  · rw [kind?_erase below]
  · obtain ⟨r, rfl⟩ := below
    refine iff_of_false ((free.append r).2 t) fun link => ?_
    rw [get?_erase hp] at link
    cases link
  · exact (get?_erase_eq_some_iff below rfl).symm

/-- **What is resolved is the same.** -/
theorem resolveFrom (h : disk.SameFrame disk') (proper : disk.Proper) (cwd : Place) (here : Route)
    (names : List String) : disk.resolveFrom cwd (disk.linkRoutes cwd) here names =
      disk'.resolveFrom cwd (disk'.linkRoutes cwd) here names :=
  resolveFrom_congr h.links (linkRoutes_perm h.links proper (h.proper proper) cwd) here names

end SameFrame

end TagSearch.Node
