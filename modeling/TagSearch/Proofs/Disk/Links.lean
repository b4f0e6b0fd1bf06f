import Mathlib.Data.List.Nodup
import TagSearch.Disk.Resolve
import TagSearch.Proofs.Disk.Tree

/-!
# The links of a disk

A walk lists every place once, and so every link once. Two disks with links at the same places
therefore list the same links, in some order.

* `Node.nodup_walk`: the places that a walk lists are distinct.
* `Node.mem_links_iff`: which places are listed as links.
* `Node.SameLinks` and `Node.linkRoutes_perm`: disks with the same links.
-/

namespace TagSearch.Node

variable {α : Type} {n n' disk disk' : Node α} {p q : Place}

/-! ## Every place once -/

/-- No place of a list of directories to read lies in another of them. -/
def ApartDirs (todo : List (Place × List (String × Node α))) : Prop :=
  todo.Pairwise fun d e => ¬ d.1 <+: e.1 ∧ ¬ e.1 <+: d.1

/-- The directories in one directory are apart. -/
theorem apartDirs_subdirs {here : Place} {es : List (String × Node α)}
    (distinct : (es.map (·.1)).Nodup) : ApartDirs (subdirs here es) := by
  have names : es.Pairwise fun e e' => e.1 ≠ e'.1 := List.pairwise_map.1 distinct
  have beside {k k' : String} (other : k ≠ k') : ¬ here ++ [k] <+: here ++ [k'] := by
    rw [List.prefix_append_right_inj]
    exact fun same => other (List.cons_prefix_cons.1 same).1
  refine List.pairwise_filterMap.2 (names.imp fun {e e'} other => ?_)
  intro d hd d' hd'
  obtain ⟨sub, _, rfl⟩ := Option.map_eq_some_iff.1 hd
  obtain ⟨sub', _, rfl⟩ := Option.map_eq_some_iff.1 hd'
  exact ⟨beside other, beside (Ne.symm other)⟩

/-- A directory may be replaced by those in it. -/
theorem ApartDirs.replace {here : Place} {es : List (String × Node α)}
    {todo : List (Place × List (String × Node α))} (h : ApartDirs ((here, es) :: todo))
    (distinct : (es.map (·.1)).Nodup) : ApartDirs (subdirs here es ++ todo) := by
  obtain ⟨first, others⟩ := List.pairwise_cons.1 h
  refine List.pairwise_append.2 ⟨apartDirs_subdirs distinct, others, fun d hd e he => ?_⟩
  obtain ⟨k, _, place⟩ := mem_subdirs.1 hd
  obtain ⟨below, above⟩ := first e he
  rw [place]
  refine ⟨fun lead => below ((List.prefix_append _ _).trans lead), fun lead => ?_⟩
  rcases List.prefix_concat_iff.1 lead with same | lead
  · exact below (same ▸ List.prefix_append _ _)
  · exact above lead

/-- **A walk lists every place once.** -/
theorem nodup_walk {todo : List (Place × List (String × Node α))}
    (proper : ∀ d ∈ todo, (dir d.2).Proper) (apart : ApartDirs todo) :
    ((walk todo).map (·.1)).Nodup := by
  fun_induction walk todo with
  | case1 => exact List.nodup_nil
  | case2 here es todo ih =>
    obtain ⟨now, others⟩ := List.forall_mem_cons.1 proper
    obtain ⟨distinct, _, below⟩ := proper_dir_iff.1 now
    have proper' : ∀ d ∈ subdirs here es ++ todo, (dir d.2).Proper := by
      intro d hd
      rcases List.mem_append.1 hd with sub | later
      · obtain ⟨k, mem, _⟩ := mem_subdirs.1 sub
        exact below _ mem
      · exact others d later
    rw [List.map_append, List.nodup_append, List.map_map]
    refine ⟨?_, ih proper' (apart.replace distinct), ?_⟩
    · have names : (es.map (·.1)).Nodup := distinct
      refine List.Nodup.of_map (fun place => place.getLast?.getD "") ?_
      rw [List.map_map]
      simpa [Function.comp_def] using names
    · -- What is listed later lies deeper, or in another directory.
      intro place hplace place' hplace' same
      obtain ⟨⟨k, m⟩, _, rfl⟩ := List.mem_map.1 hplace
      obtain ⟨⟨_, m'⟩, mem, rfl⟩ := List.mem_map.1 hplace'
      obtain ⟨d, hd, q, hq, rfl, _⟩ := (mem_walk_iff proper').1 mem
      dsimp only [Function.comp] at same
      rcases List.mem_append.1 hd with sub | later
      · obtain ⟨k', _, there⟩ := mem_subdirs.1 sub
        have length := congrArg List.length same
        rw [there] at length
        simp only [List.length_append, List.length_singleton] at length
        have := List.length_pos_iff.2 hq
        omega
      · obtain ⟨apart', apart''⟩ := (List.pairwise_cons.1 apart).1 d later
        have lead : here <+: d.1 ++ q := same ▸ List.prefix_append here [k]
        exact (List.prefix_or_prefix_of_prefix lead (List.prefix_append d.1 q)).elim apart' apart''

/-! ## Listed links -/

theorem mem_links_iff (h : n.Proper) : p ∈ n.links ↔ p ≠ [] ∧ ∃ t, n.get? p = some (.link t) := by
  rw [links, List.mem_filterMap]
  constructor
  · rintro ⟨⟨place, m⟩, mem, listed⟩
    obtain ⟨hp, found⟩ := (mem_descendants_iff h).1 mem
    cases m with
    | link t =>
      obtain rfl := Option.some.inj listed
      exact ⟨hp, t, found⟩
    | file | dir => cases listed
  · rintro ⟨hp, t, found⟩
    exact ⟨(p, .link t), (mem_descendants_iff h).2 ⟨hp, found⟩, rfl⟩

/-- The places below a node are listed once. -/
theorem nodup_descendants (h : n.Proper) : (n.descendants.map (·.1)).Nodup := by
  cases n with
  | dir es =>
    refine nodup_walk (fun d hd => ?_) (List.pairwise_singleton _ _)
    rw [List.mem_singleton.1 hd]
    exact h
  | file | link => exact List.nodup_nil

theorem nodup_links (h : n.Proper) : n.links.Nodup := by
  have listed : n.links.Sublist (n.descendants.map (·.1)) := by
    rw [links]
    induction n.descendants with
    | nil => exact .slnil
    | cons entry entries ih =>
      obtain ⟨place, m⟩ := entry
      cases m with
      | link t => exact ih.cons_cons place
      | file | dir => exact ih.cons place
  exact (nodup_descendants h).sublist listed

/-! ## Sound disks -/

/-- A disk as it can be: its names can be names, and no link leads through a name with a NUL. -/
structure Sound (disk : Node α) : Prop where
  proper : disk.Proper
  targets : ∀ p t, disk.get? p = some (.link t) → '\x00' ∉ t.toList

theorem mem_links_of_link {es : List (String × Node α)} (proper : (Node.dir es).Proper) {t : String}
    (link : (Node.dir es).get? p = some (.link t)) : p ∈ (Node.dir es).links := by
  refine (mem_links_iff proper).2 ⟨?_, t, link⟩
  rintro rfl
  rw [get?_nil] at link
  cases link

/-- Whether a disk can be is told by its links. -/
theorem sound_of_links {es : List (String × Node α)} (proper : (Node.dir es).Proper)
    (targets : ∀ p ∈ (Node.dir es).links, ∀ t, (Node.dir es).get? p = some (.link t) →
      '\x00' ∉ t.toList) : (Node.dir es).Sound :=
  ⟨proper, fun p t link => targets p (mem_links_of_link proper link) t link⟩

section

variable {es : List (String × Node α)} (proper : (Node.dir es).Proper)
  (none : (Node.dir es).links = [])
include proper none

/-- Where no link is listed, none is found. -/
theorem not_link_of_links_eq_nil (p : Place) (t : String) :
    (Node.dir es).get? p ≠ some (.link t) := by
  intro link
  have mem := mem_links_of_link proper link
  rw [none] at mem
  cases mem

theorem sound_of_links_eq_nil : (Node.dir es).Sound :=
  ⟨proper, fun p t link => (not_link_of_links_eq_nil proper none p t link).elim⟩

end

/-! ## Disks with the same links -/

/-- Two disks have the same links at the same places. -/
def SameLinks (disk disk' : Node α) : Prop :=
  ∀ p t, disk.get? p = some (.link t) ↔ disk'.get? p = some (.link t)

theorem SameLinks.refl (disk : Node α) : disk.SameLinks disk := fun _ _ => Iff.rfl

theorem SameLinks.trans {disk'' : Node α} (h : disk.SameLinks disk') (h' : disk'.SameLinks disk'') :
    disk.SameLinks disk'' := fun p t => (h p t).trans (h' p t)

/-- **Disks with the same links list the same ways to them**, in some order. -/
theorem linkRoutes_perm (h : disk.SameLinks disk') (proper : disk.Proper) (proper' : disk'.Proper)
    (cwd : Place) : (disk.linkRoutes cwd).Perm (disk'.linkRoutes cwd) := by
  refine List.Perm.flatMap_right _ ?_
  refine (List.perm_ext_iff_of_nodup (nodup_links proper) (nodup_links proper')).2 fun p => ?_
  rw [mem_links_iff proper, mem_links_iff proper']
  exact and_congr_right fun _ => exists_congr fun t => h p t

end TagSearch.Node
