import TagSearch.Proofs.Disk.Path
import TagSearch.Proofs.Disk.Tree

/-!
# Paths below a directory that is found

If a path leads to a directory, the path that is continued by the names of directories leads to the
places of these names below it, however many links were followed before.

* `Node.followFrom_append`: names may be followed one part after the other.
* `Node.follow_below`: where a path that is continued by names leads.
* `Node.scanPaths_below`: what a scan finds there.
-/

namespace TagSearch.Node

variable {α : Type} {disk : Node α} {here place : Place}

/-- Names that mean nothing may be left out. -/
theorem followFrom_skip {budget : Nat} {name : String} (empty : name = "" ∨ name = ".")
    {names : List String} (h : disk.followFrom budget here (name :: names) = .ok place) :
    disk.followFrom budget here names = .ok place := by
  rw [followFrom] at h
  split at h
  · rwa [if_pos empty] at h
  · cases h

/-- **Names may be followed one part after the other**, if the first part leads to a directory. -/
theorem followFrom_append {budget : Nat} {first second : List String} {there : Place}
    (h : disk.followFrom budget here first = .ok place) (dir : disk.kind? place = some true)
    (rest : ∀ budget, disk.followFrom budget place second = .ok there) :
    disk.followFrom budget here (first ++ second) = .ok there := by
  fun_induction followFrom disk budget here first with
  | case1 =>
    cases h
    exact rest _
  | case2 _ here _ _ _ found empty ih =>
    rw [List.cons_append, followFrom, found]
    dsimp only
    rw [if_pos empty]
    exact ih h
  | case3 _ here _ _ found meant ih =>
    rw [List.cons_append, followFrom, found]
    dsimp only
    rw [if_neg meant, if_pos rfl]
    exact ih h
  | case4 | case6 | case7 | case10 => cases h
  | case5 _ here _ _ _ _ _ _ _ missing =>
    -- The last name is new, so it leads to no directory.
    cases h
    rw [kind?, missing] at dir
    cases dir
  | case8 here _ _ _ found meant down short _ link _ ih =>
    rw [List.cons_append, followFrom, found]
    dsimp only
    rw [if_neg meant, if_neg down, if_neg short, link]
    dsimp only
    rw [← List.append_assoc]
    exact ih h
  | case9 _ here _ _ _ found meant down short n other next ih =>
    rw [List.cons_append, followFrom, found]
    dsimp only
    rw [if_neg meant, if_neg down, if_neg short, next]
    cases n with
    | link target => exact (other target rfl).elim
    | file | dir => exact ih h

/-- The names of directories lead to the place of the last of them. -/
theorem followFrom_names {names : List String} (named : ∀ name ∈ names, IsName name)
    (short : ∀ name ∈ names, isNameTooLong name = false)
    (dir : disk.kind? (here ++ names) = some true) (budget : Nat) :
    disk.followFrom budget here names = .ok (here ++ names) := by
  induction names generalizing here with
  | nil => rw [followFrom, List.append_nil]
  | cons name names ih =>
    obtain ⟨first, named⟩ := List.forall_mem_cons.1 named
    obtain ⟨fits, short⟩ := List.forall_mem_cons.1 short
    obtain ⟨full, single, double, _⟩ := first
    rw [← List.singleton_append, ← List.append_assoc] at dir ⊢
    have there : disk.kind? (here ++ [name]) = some true := by
      cases names with
      | nil => rwa [List.append_nil] at dir
      | cons => exact kind?_of_below dir (List.cons_ne_nil _ _)
    have start : disk.kind? here = some true :=
      kind?_of_below there (List.cons_ne_nil name [])
    obtain ⟨es, found⟩ := exists_of_isDir start
    obtain ⟨es', next⟩ := exists_of_isDir there
    rw [List.singleton_append, followFrom, found]
    dsimp only
    rw [if_neg (not_or.2 ⟨full, single⟩), if_neg double, if_neg (by simp [fits]), next]
    exact ih named short dir

theorem locate_eq_ok_iff {cwd : Place} {text : String} :
    disk.locate cwd text = .ok here ↔
      disk.follow cwd text = .ok here ∧ (disk.get? here).isSome = true := by
  rw [locate]
  cases disk.follow cwd text with
  | error e => exact iff_of_false (fun h => nomatch h) fun h => nomatch h.1
  | ok place =>
    show (if _ then _ else _) = _ ↔ _
    by_cases there : (disk.get? place).isSome = true
    · rw [if_pos there]
      exact ⟨fun h => ⟨h, Except.ok.inj h ▸ there⟩, And.left⟩
    · rw [if_neg there]
      refine iff_of_false (fun h => nomatch h) ?_
      rintro ⟨h, isSome⟩
      exact there (Except.ok.inj h ▸ isSome)

theorem stat_eq_ok_iff {cwd : Place} {text : String} {n : Node α} :
    disk.stat cwd text = .ok n ↔
      ∃ place, disk.follow cwd text = .ok place ∧ disk.get? place = some n := by
  rw [stat, bind_eq_ok_iff]
  refine exists_congr fun place => and_congr_right fun _ => ?_
  cases disk.get? place <;> simp

theorem find?_eq_some_iff {cwd : Place} {p : PathText} {n : Node α} :
    disk.find? cwd p = .ok (some n) ↔ disk.stat cwd p.toText = .ok n := by
  rw [find?]
  cases disk.stat cwd p.toText with
  | ok m => simp
  | error fault => cases fault <;> simp

/-- **A path that is continued by the names of directories** leads to their place below the
directory that the path leads to. -/
theorem follow_below {root : PathText} {cwd : Place} (rooted : ∀ name ∈ root.parts, IsPart name)
    (located : disk.locate cwd root.toText = .ok here) {names : List String}
    (named : ∀ name ∈ names, IsName name) (short : ∀ name ∈ names, isNameTooLong name = false)
    (fits : names ≠ [] → isPathTooLong (root.below names).toText = false)
    (dir : disk.kind? (here ++ names) = some true) :
    disk.follow cwd (root.below names).toText = .ok (here ++ names) := by
  obtain ⟨reached, _⟩ := locate_eq_ok_iff.1 located
  by_cases hne : names = []
  · subst hne
    rwa [PathText.below_eq, List.append_nil, List.append_nil]
  · have start : disk.kind? here = some true := kind?_of_below dir hne
    have parts : ∀ name ∈ names, IsPart name := fun name mem => (named name mem).isPart
    obtain ⟨lead, raw, same⟩ := PathText.rawNames_below rooted parts hne
    rw [follow] at reached
    split at reached
    · cases reached
    · split at reached
      · cases reached
      · have led : disk.followFrom linkBudget (startPlace cwd root.toText) lead = .ok here := by
          rcases same with same | ⟨name, empty, same⟩
          · rwa [same] at reached
          · rw [same] at reached
            exact followFrom_skip empty reached
        have full : (root.below names).toText ≠ "" := by
          intro empty
          obtain ⟨name, rest, rfl⟩ := List.exists_cons_of_ne_nil hne
          have mem : name ∈ rawNames (root.below (name :: rest)).toText := by simp [raw]
          rw [empty] at mem
          exact (parts name List.mem_cons_self).1 (List.mem_singleton.1 mem)
        rw [follow, if_neg full, if_neg (by simp [fits hne]), raw,
          PathText.startPlace_below rooted parts]
        exact followFrom_append led start fun budget => followFrom_names named short dir budget

/-- **What a scan of a directory below another one finds.** -/
theorem scanPaths_below {root : PathText} {cwd : Place} (rooted : ∀ name ∈ root.parts, IsPart name)
    (located : disk.locate cwd root.toText = .ok here) {names : List String}
    (named : ∀ name ∈ names, IsName name) (short : ∀ name ∈ names, isNameTooLong name = false)
    (fits : names ≠ [] → isPathTooLong (root.below names).toText = false)
    {es : List (String × Node α)} (dir : disk.get? (here ++ names) = some (.dir es)) :
    disk.scanPaths cwd (root.below names) = .ok ((Node.dir es).scan.map joinNames) := by
  have kind : disk.kind? (here ++ names) = some true := by rw [kind?, dir]; rfl
  have found : disk.find? cwd (root.below names) = .ok (some (.dir es)) := by
    rw [find?, stat, follow_below rooted located named short fits kind]
    dsimp only [bind, Except.bind]
    rw [dir]
  rw [scanPaths, scanRoot, found]
  rfl

end TagSearch.Node
