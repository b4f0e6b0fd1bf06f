import TagSearch.Disk.IndexPath
import TagSearch.Proofs.Catalog.Present
import TagSearch.Proofs.Disk.Resolve

/-!
# Names of scanned files

A scan names what it lists by its place below the scanned directory, and an index records it by that
name. A path that a user gives is resolved before it is named. The two names are the same for every
file, and for a link they are those of the link and of what it resolves to.

* `Node.get?_of_scanRoot`: where a scan of a path without links starts.
* `Node.linkless_below_of_scan`: no link is on the way to what is listed.
* `Node.indexPath_eq_ok_iff`: what a path from the top is named.
* `Node.scanned_files_are_named`: what is recorded by a scan, and what its path is named.
-/

namespace TagSearch

namespace Node

variable {α : Type} {disk n : Node α} {cwd : Place} {root path : PathText} {names : List String}

/-! ## Where a scan starts -/

/-- Names on which there is no link lead to the place below. -/
theorem eq_of_followFrom_linkless {budget : Nat} {here place : Place}
    (named : ∀ name ∈ names, IsName name) (linkless : disk.Linkless (here ++ names))
    (led : disk.followFrom budget here names = .ok place) : place = here ++ names := by
  induction names generalizing here with
  | nil =>
    rw [followFrom] at led
    rw [List.append_nil, Except.ok.inj led]
  | cons name names ih =>
    obtain ⟨⟨full, single, double, _⟩, named⟩ := List.forall_mem_cons.1 named
    have split : here ++ name :: names = here ++ [name] ++ names := by
      rw [List.append_assoc, List.singleton_append]
    rw [split] at linkless ⊢
    rw [followFrom] at led
    split at led
    · rw [if_neg (not_or.2 ⟨full, single⟩), if_neg double] at led
      split at led
      · cases led
      · split at led
        · split at led
          · rename_i last
            rw [List.isEmpty_iff.1 last, List.append_nil, Except.ok.inj led]
          · cases led
        · rename_i target link
          exact (linkless _ (List.prefix_append _ _) target link).elim
        · exact ih named linkless led
    · cases led

section

variable (sound : disk.Sound) (dir : disk.kind? cwd = some true) (direct : disk.IsDirect root)
  (rooted : ∀ name ∈ root.parts, IsName name) (scanned : disk.scanRoot cwd root = .ok n)

include dir direct rooted scanned

/-- **A scan of a path without links** starts at the place of its names. -/
theorem get?_of_scanRoot : disk.get? root.parts = some n := by
  obtain ⟨anchor, parts⟩ := root
  obtain ⟨rfl, linkless⟩ := direct
  have top : disk.kind? [] = some true := kind?_of_isPrefix dir List.nil_prefix
  rw [scanRoot] at scanned
  split at scanned
  · rename_i es found
    obtain rfl := Except.ok.inj scanned
    have fits := isPathTooLong_of_find? found
    rw [find?] at found
    split at found
    · rename_i m stat
      obtain rfl := Option.some.inj (Except.ok.inj found)
      obtain ⟨place, led, there⟩ := bind_eq_ok_iff.1 stat
      rw [follow_toText_top top rooted fits] at led
      obtain rfl : place = [] ++ parts := eq_of_followFrom_linkless rooted linkless led
      split at there
      · rename_i m' found
        rwa [← Except.ok.inj there]
      · cases there
    · cases found
    · cases found
  · cases scanned
  · cases scanned

include sound

/-- What is listed is there and no directory, under names that entries can have. -/
theorem listed_of_scan (listed : names ∈ n.scan) :
    names ≠ [] ∧ disk.kind? (root.parts ++ names) = some false ∧
      ∀ name ∈ (root.below names).parts, IsName name := by
  have start := get?_of_scanRoot dir direct rooted scanned
  obtain ⟨ne, kind, _⟩ := (mem_scan_iff (sound.proper.of_get? start)).1 listed
  rw [← kind?_of_get? start] at kind
  exact ⟨ne, kind, sound.proper.isName kind⟩

/-- No link is on the way to what is listed, unless it is one itself. -/
theorem isDirect_below_of_scan (listed : names ∈ n.scan)
    (file : ∀ t, disk.get? (root.parts ++ names) ≠ some (.link t)) :
    disk.IsDirect (root.below names) := by
  obtain ⟨ne, kind, _⟩ := listed_of_scan sound dir direct rooted scanned listed
  refine ⟨direct.top, ?_⟩
  have split : root.parts ++ names = root.parts ++ names.dropLast ++ [names.getLast ne] := by
    rw [List.append_assoc, List.dropLast_concat_getLast]
  rw [split] at kind
  rw [PathText.below_eq, split]
  refine (linkless_of_isDir (kind?_of_below kind (List.cons_ne_nil _ _))).concat ?_
  rwa [← split]

end

/-! ## What a path is named -/

/-- A path from the top is named by what it resolves to below the directory. -/
theorem indexPath_eq_ok_iff (absolute : path.isAbsolute = true) {text : String} :
    disk.indexPath cwd root path = .ok text ↔
      ∃ names, disk.resolve cwd path = .ok (root.below names) ∧ text = joinNames names := by
  rw [indexPath, PathText.join, if_pos absolute]
  cases disk.resolve cwd path with
  | error fault => simp
  | ok resolved =>
    dsimp only
    cases part : resolved.relativeTo? root with
    | none =>
      refine iff_of_false (by rintro ⟨⟩) ?_
      rintro ⟨names, same, _⟩
      rw [PathText.relativeTo?_eq_some_iff.2 (Except.ok.inj same)] at part
      cases part
    | some names =>
      obtain rfl := PathText.relativeTo?_eq_some_iff.1 part
      constructor
      · exact fun h => ⟨names, rfl, (Except.ok.inj h).symm⟩
      · rintro ⟨names', same, rfl⟩
        have := congrArg (·.relativeTo? root) (Except.ok.inj same)
        simp only [PathText.relativeTo?_below, Option.some.injEq] at this
        rw [this]

/-- **Scanned files can be named.** Let a directory be given by a path that passes through no link,
and be scanned into an index. Each file that is listed is recorded as present under its place below
the directory, and its path is named so, unless it is a link. The path of a link is named by what it
resolves to, if that lies below the directory, and by nothing otherwise. -/
theorem scanned_files_are_named (sound : disk.Sound) (dir : disk.kind? cwd = some true)
    (direct : disk.IsDirect root) (rooted : ∀ name ∈ root.parts, IsName name)
    (scanned : disk.scanRoot cwd root = .ok n) {s : Session} (h : s.catalog.Consistent)
    (prune : Bool) (listed : names ∈ n.scan) :
    let c := (s.build root.toText (n.scan.map joinNames) prune).1.catalog
    (∃ f ∈ c.files, f.path = joinNames names ∧ f.present = true) ∧
    ((∀ t, disk.get? (root.parts ++ names) ≠ some (.link t)) →
      disk.indexPath cwd root (root.below names) = .ok (joinNames names)) ∧
    ∀ t, disk.get? (root.parts ++ names) = some (.link t) → ∀ text,
      disk.indexPath cwd root (root.below names) = .ok text ↔
        ∃ others, disk.resolve cwd (root.below names) = .ok (root.below others) ∧
          text = joinNames others := by
  intro c
  have absolute : (root.below names).isAbsolute = true := by
    rw [PathText.isAbsolute, PathText.below_eq, direct.top]
    rfl
  obtain ⟨_, _, named⟩ := listed_of_scan sound dir direct rooted scanned listed
  refine ⟨?_, fun file => ?_, fun _ _ _ => indexPath_eq_ok_iff absolute⟩
  · have present : joinNames names ∈ c.presentPaths :=
      (Catalog.mem_presentPaths_sync h _ prune).2 (List.mem_map_of_mem listed)
    obtain ⟨f, hf, path⟩ := List.mem_map.1 present
    obtain ⟨mem, there⟩ := List.mem_filter.1 hf
    exact ⟨f, mem, path, there⟩
  · have direct' := isDirect_below_of_scan sound dir direct rooted scanned listed file
    exact (indexPath_eq_ok_iff absolute).2 ⟨names, resolve_of_isDirect direct' named, rfl⟩

/-- A directory with a file, a link to it, and a link to a file outside. -/
def linkedTree : Node Unit := .dir [("a", .file ()), ("l", .link "a"), ("m", .link "../b")]

/-- A disk with this directory and the file outside. -/
def linkedDisk : Node Unit := .dir [("b", .file ()), ("r", linkedTree)]

theorem links_linkedDisk : linkedDisk.links = [["r", "l"], ["r", "m"]] := by cbv

theorem proper_linkedDisk : linkedDisk.Proper := by
  simp [linkedDisk, linkedTree, proper_dir_iff, IsName]

theorem sound_linkedDisk : linkedDisk.Sound := by
  refine sound_of_links proper_linkedDisk fun p mem t link => ?_
  have places : p = ["r", "l"] ∨ p = ["r", "m"] := by
    simpa using (links_linkedDisk ▸ mem : p ∈ [["r", "l"], ["r", "m"]])
  rcases places with rfl | rfl
  all_goals
    obtain rfl : _ = t := Node.link.inj (Option.some.inj link)
    decide

/-- The file is named, and so is a link to it, by the name of the file. -/
theorem scanned_files_are_named_linked :
    let root := PathText.ofPlace ["r"]
    (linkedDisk.Sound ∧ linkedDisk.kind? [] = some true ∧ linkedDisk.IsDirect root ∧
      (∀ name ∈ root.parts, IsName name) ∧ linkedDisk.scanRoot [] root = .ok linkedTree ∧
      Session.fresh.catalog.Consistent) ∧
    (["a"] ∈ linkedTree.scan ∧ linkedDisk.get? ["r", "a"] = some (.file ()) ∧
      linkedDisk.indexPath [] root (root.below ["a"]) = .ok "a") ∧
    ["l"] ∈ linkedTree.scan ∧ linkedDisk.get? ["r", "l"] = some (.link "a") ∧
      linkedDisk.indexPath [] root (root.below ["l"]) = .ok "a" := by
  intro root
  have direct : linkedDisk.IsDirect root :=
    ⟨rfl, linkless_of_links proper_linkedDisk (links_linkedDisk ▸ by decide)⟩
  have rooted : ∀ name ∈ root.parts, IsName name := by simp [root, PathText.ofPlace, IsName]
  have scanned : linkedDisk.scanRoot [] root = .ok linkedTree := by cbv
  have consistent : Session.fresh.catalog.Consistent := Catalog.consistent_empty
  have places : linkedTree.scan = [["a"], ["l"], ["m"]] := by cbv
  have listed : ["a"] ∈ linkedTree.scan ∧ ["l"] ∈ linkedTree.scan := by simp [places]
  have file := scanned_files_are_named sound_linkedDisk rfl direct rooted scanned consistent false
    listed.1
  have link := scanned_files_are_named sound_linkedDisk rfl direct rooted scanned consistent false
    listed.2
  have noLink : ∀ t, linkedDisk.get? ["r", "a"] ≠ some (.link t) := by
    intro t link
    cases link
  refine ⟨⟨sound_linkedDisk, rfl, direct, rooted, scanned, consistent⟩,
    ⟨listed.1, rfl, file.2.1 noLink⟩, listed.2, rfl, ?_⟩
  exact (link.2.2 "a" rfl "a").2 ⟨["a"], by cbv, rfl⟩

/-- **A link is listed by its own name and named otherwise**: by the name of another file, or by
nothing. -/
theorem link_has_no_name :
    let root := PathText.ofPlace ["r"]
    linkedDisk.scanPaths [] root = .ok ["a", "l", "m"] ∧
    linkedDisk.indexPath [] root (root.below ["l"]) = .ok "a" ∧
    linkedDisk.indexPath [] root (root.below ["m"]) = .error (.outside "/r/m" "/r") :=
  ⟨by cbv, by cbv, by cbv⟩

end Node

end TagSearch
