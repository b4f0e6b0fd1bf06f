import TagSearch.Disk.Edit
import TagSearch.Proofs.Disk.Links
import TagSearch.Proofs.Disk.Locate
import TagSearch.Proofs.Lists

/-!
# What writing a file leaves

To write a file, directories are made that lead to it, and then the file is put in its place. No
link is changed and no directory goes, so that a path leads where it led before, and the path of the
file leads to it.

* `Node.Grows` is what writing does to a disk.
* `Node.Grows.followFrom`: paths lead where they led.
* `Node.grows_makeDirs` and `Node.writeAt_eq_ok`: making directories and writing a file.
-/

namespace TagSearch.Node

variable {α : Type} {disk disk' disk'' new : Node α} {here place p : Place}

/-! ## Putting a node -/

theorem get?_put_of_apart (h : disk.put p new = some disk') {q : Place} (below : ¬ p <+: q)
    (above : ¬ q <+: p) : disk'.get? q = disk.get? q := by
  fun_induction put disk p new generalizing disk' q with
  | case1 => exact (below List.nil_prefix).elim
  | case2 es k new =>
    cases h
    cases q with
    | nil => exact (above List.nil_prefix).elim
    | cons k' q =>
      have other : k' ≠ k := fun e => below (e ▸ List.prefix_append [k'] q)
      rw [get?, get?, lookup_setEntry, if_neg other]
  | case3 es k k' rest new ih =>
    obtain ⟨m, found, h⟩ := Option.bind_eq_some_iff.1 h
    obtain ⟨m', put, h⟩ := Option.bind_eq_some_iff.1 h
    cases h
    cases q with
    | nil => exact (above List.nil_prefix).elim
    | cons k'' q =>
      rw [get?, get?, lookup_setEntry]
      by_cases same : k'' = k
      · subst same
        rw [if_pos rfl, found, Option.bind_some, Option.bind_some]
        exact ih m put (fun lead => below (List.cons_prefix_cons.2 ⟨rfl, lead⟩))
          fun lead => above (List.cons_prefix_cons.2 ⟨rfl, lead⟩)
      · rw [if_neg same]
  | case4 => cases h

theorem mem_setEntry {k : String} {m : Node α} {es : List (String × Node α)}
    {e : String × Node α} (h : e ∈ setEntry k m es) : e = (k, m) ∨ e ∈ es := by
  induction es with
  | nil => exact Or.inl (List.mem_singleton.1 h)
  | cons e' es ih =>
    rw [setEntry] at h
    split at h
    · exact (List.mem_cons.1 h).imp_right (List.mem_cons_of_mem _)
    · rcases List.mem_cons.1 h with rfl | h
      · exact Or.inr List.mem_cons_self
      · exact (ih h).imp_right (List.mem_cons_of_mem _)

theorem nodup_setEntry {k : String} {m : Node α} {es : List (String × Node α)}
    (h : (es.map (·.1)).Nodup) : ((setEntry k m es).map (·.1)).Nodup := by
  induction es with
  | nil => exact List.nodup_singleton k
  | cons e es ih =>
    obtain ⟨fresh, distinct⟩ := List.nodup_cons.1 h
    rw [setEntry]
    split
    · rename_i same
      exact List.nodup_cons.2 ⟨same ▸ fresh, distinct⟩
    · rename_i other
      refine List.nodup_cons.2 ⟨fun mem => ?_, ih distinct⟩
      obtain ⟨e', he', same⟩ := List.mem_map.1 mem
      rcases mem_setEntry he' with rfl | he'
      · exact other same.symm
      · exact fresh (List.mem_map.2 ⟨e', he', same⟩)

theorem Proper.setEntry {k : String} {m : Node α} {es : List (String × Node α)}
    (h : (dir es).Proper) (name : IsName k) (hm : m.Proper) :
    (dir (Node.setEntry k m es)).Proper := by
  obtain ⟨distinct, names, below⟩ := proper_dir_iff.1 h
  refine proper_dir_iff.2 ⟨nodup_setEntry distinct, fun e he => ?_, fun e he => ?_⟩
  · rcases mem_setEntry he with rfl | he
    · exact name
    · exact names e he
  · rcases mem_setEntry he with rfl | he
    · exact hm
    · exact below e he

/-- **A disk stays proper** if what is put on it is proper and stands at names. -/
theorem Proper.put (h : disk.Proper) (put : disk.put p new = some disk') (hnew : new.Proper)
    (names : ∀ name ∈ p, IsName name) : disk'.Proper := by
  fun_induction Node.put disk p new generalizing disk' with
  | case1 =>
    obtain rfl := Option.some.inj put
    exact hnew
  | case2 es k new =>
    obtain rfl := Option.some.inj put
    exact h.setEntry (names k List.mem_cons_self) hnew
  | case3 es k k' rest new ih =>
    obtain ⟨m, found, rest⟩ := Option.bind_eq_some_iff.1 put
    obtain ⟨m', inner, e⟩ := Option.bind_eq_some_iff.1 rest
    obtain rfl := Option.some.inj e
    obtain ⟨first, others⟩ := List.forall_mem_cons.1 names
    have there : (dir es).get? [k] = some m := by rw [get?, found, Option.bind_some, get?_nil]
    exact h.setEntry first (ih m (h.of_get? there) inner hnew others)
  | case4 => cases put

/-! ## Disks that grow -/

/-- A disk with the same links on which no directory went. -/
structure Grows (disk disk' : Node α) : Prop where
  links : disk.SameLinks disk'
  dirs : ∀ p, disk.kind? p = some true → disk'.kind? p = some true
  sound : disk.Sound → disk'.Sound

namespace Grows

theorem refl (disk : Node α) : disk.Grows disk := ⟨.refl disk, fun _ h => h, fun h => h⟩

theorem trans (h : disk.Grows disk') (h' : disk'.Grows disk'') : disk.Grows disk'' :=
  ⟨h.links.trans h'.links, fun p dir => h'.dirs p (h.dirs p dir), fun s => h'.sound (h.sound s)⟩

/-- **A leaf may be put** where there is neither a directory nor a link. -/
theorem of_put (put : disk.put p new = some disk') (noDir : disk.kind? p ≠ some true)
    (noLink : ∀ t, disk.get? p ≠ some (.link t)) (leaf : ∀ q t, new.get? q ≠ some (.link t))
    (hnew : new.Proper) (names : ∀ name ∈ p, IsName name) : disk.Grows disk' := by
  have links : disk.SameLinks disk' := by
    intro q t
    by_cases below : p <+: q
    · obtain ⟨r, rfl⟩ := below
      refine iff_of_false (fun found => ?_) fun found =>
        leaf r t ((get?_put put r).symm.trans found)
      by_cases hr : r = []
      · rw [hr, List.append_nil] at found
        exact noLink t found
      · have nothing := kind?_below noDir hr
        rw [kind?, found] at nothing
        cases nothing
    · by_cases above : q <+: p
      · -- On the way to the place are directories, before and after.
        have apart : q ≠ p := fun e => below (e ▸ List.prefix_rfl)
        have dir := isDir_of_put put above apart
        have dir' := (kind?_put put below).trans dir
        refine iff_of_false (fun found => ?_) fun found => ?_
        · rw [kind?, found] at dir
          cases dir
        · rw [kind?, found] at dir'
          cases dir'
      · rw [get?_put_of_apart put below above]
  refine ⟨links, fun q dir => ?_, fun s => ⟨s.proper.put put hnew names, fun q t found => ?_⟩⟩
  · by_cases below : p <+: q
    · obtain ⟨r, rfl⟩ := below
      by_cases hr : r = []
      · rw [hr, List.append_nil] at dir
        exact (noDir dir).elim
      · rw [kind?_below noDir hr] at dir
        cases dir
    · rw [kind?_put put below, dir]
  · exact s.targets q t ((links q t).2 found)

/-- **Paths lead where they led.** -/
theorem followFrom (h : disk.Grows disk') {budget : Nat} {names : List String}
    (led : disk.followFrom budget here names = .ok place) :
    disk'.followFrom budget here names = .ok place := by
  have dir {here : Place} {es : List (String × Node α)} (found : disk.get? here = some (.dir es)) :
      ∃ es', disk'.get? here = some (.dir es') :=
    exists_of_isDir (h.dirs here (by rw [kind?, found]; rfl))
  fun_induction Node.followFrom disk budget here names with
  | case1 => rw [Node.followFrom, ← led]
  | case2 _ here _ _ _ found empty ih =>
    obtain ⟨es', found'⟩ := dir found
    rw [Node.followFrom, found']
    dsimp only
    rw [if_pos empty]
    exact ih led
  | case3 _ here _ _ found meant ih =>
    obtain ⟨es', found'⟩ := dir found
    rw [Node.followFrom, found']
    dsimp only
    rw [if_neg meant, if_pos rfl]
    exact ih led
  | case4 | case6 | case7 | case10 => cases led
  | case5 _ here name rest _ found meant down short missing last =>
    obtain ⟨es', found'⟩ := dir found
    obtain rfl := List.isEmpty_iff.1 last
    rw [Node.followFrom, found']
    dsimp only
    rw [if_neg meant, if_neg down, if_neg short]
    cases next : disk'.get? (here ++ [name]) with
    | none => exact led
    | some n =>
      cases n with
      | link t =>
        rw [(h.links _ t).2 next] at missing
        cases missing
      | file | dir =>
        dsimp only
        rw [Node.followFrom]
        exact led
  | case8 here _ _ _ found meant down short target link _ ih =>
    obtain ⟨es', found'⟩ := dir found
    rw [Node.followFrom, found']
    dsimp only
    rw [if_neg meant, if_neg down, if_neg short, (h.links _ _).1 link]
    exact ih led
  | case9 _ here name rest _ found meant down short n other next ih =>
    obtain ⟨es', found'⟩ := dir found
    rw [Node.followFrom, found']
    dsimp only
    rw [if_neg meant, if_neg down, if_neg short]
    -- What is no directory is the end of the way, whatever stands there later.
    have ended (file : n.isDir = false) : rest = [] ∧ here ++ [name] = place := by
      cases rest with
      | nil =>
        rw [Node.followFrom] at led
        exact ⟨rfl, Except.ok.inj led⟩
      | cons k rest =>
        rw [Node.followFrom, next] at led
        cases n with
        | dir => cases file
        | file | link => cases led
    cases next' : disk'.get? (here ++ [name]) with
    | none =>
      cases n with
      | dir es =>
        obtain ⟨_, there⟩ := dir next
        rw [next'] at there
        cases there
      | file | link =>
        obtain ⟨rfl, rfl⟩ := ended rfl
        rfl
    | some n' =>
      cases n' with
      | link t =>
        rw [(h.links _ t).2 next'] at next
        exact (other t (Option.some.inj next).symm).elim
      | file | dir => exact ih led

end Grows

/-! ## Where paths lead on a sound disk -/

/-- A path leads to names that can be names. -/
theorem isName_of_followFrom (sound : disk.Sound) {budget : Nat} {names : List String}
    (start : ∀ name ∈ here, IsName name) (raw : ∀ name ∈ names, IsRaw name)
    (led : disk.followFrom budget here names = .ok place) : ∀ name ∈ place, IsName name := by
  fun_induction Node.followFrom disk budget here names with
  | case1 => exact Except.ok.inj led ▸ start
  | case2 _ here name rest _ found empty ih =>
    exact ih start (List.forall_mem_cons.1 raw).2 led
  | case3 _ here rest _ found meant ih =>
    exact ih (fun name mem => start name (List.mem_of_mem_dropLast mem))
      (List.forall_mem_cons.1 raw).2 led
  | case4 | case6 | case7 | case10 => cases led
  | case5 _ here name rest _ found meant down short missing last =>
    obtain rfl := Except.ok.inj led
    have named := (raw name List.mem_cons_self).isName meant down
    exact List.forall_mem_append.2 ⟨start, List.forall_mem_singleton.2 named⟩
  | case8 here name rest _ found meant down short target link budget ih =>
    refine ih ?_ (List.forall_mem_append.2 ⟨?_, (List.forall_mem_cons.1 raw).2⟩) led
    · rw [startPlace]
      split
      · exact List.forall_mem_nil _
      · exact start
    · exact fun name mem => isRaw_of_mem_rawNames (sound.targets _ _ link) mem
  | case9 _ here name rest _ found meant down short n other next ih =>
    have named := (raw name List.mem_cons_self).isName meant down
    exact ih (List.forall_mem_append.2 ⟨start, List.forall_mem_singleton.2 named⟩)
      (List.forall_mem_cons.1 raw).2 led

/-- What is on the way to a directory is one. -/
theorem kind?_of_isPrefix (dir : disk.kind? here = some true) (lead : p <+: here) :
    disk.kind? p = some true := by
  obtain ⟨q, rfl⟩ := lead
  by_cases hq : q = []
  · rwa [hq, List.append_nil] at dir
  · exact kind?_of_below dir hq

/-- No link is on the way to a directory. -/
theorem not_link_of_isPrefix (dir : disk.kind? here = some true) (lead : p <+: here) (t : String) :
    disk.get? p ≠ some (.link t) := by
  intro link
  have above := kind?_of_isPrefix dir lead
  rw [kind?, link] at above
  cases above

/-- A path that leads somewhere from a directory leads to no link. -/
theorem not_link_of_followFrom {budget : Nat} {names : List String}
    (start : ∀ t, disk.get? here ≠ some (.link t))
    (led : disk.followFrom budget here names = .ok place) (t : String) :
    disk.get? place ≠ some (.link t) := by
  fun_induction Node.followFrom disk budget here names with
  | case1 => exact Except.ok.inj led ▸ start t
  | case2 _ here name rest _ found empty ih => exact ih start led
  | case3 _ here rest _ found meant ih =>
    have dir : disk.kind? here = some true := by rw [kind?, found]; rfl
    exact ih (not_link_of_isPrefix dir (List.dropLast_prefix here)) led
  | case4 | case6 | case7 | case10 => cases led
  | case5 _ here name rest _ found meant down short missing last =>
    obtain rfl := Except.ok.inj led
    rw [missing]
    rintro ⟨⟩
  | case8 here name rest _ found meant down short target link budget ih =>
    have dir : disk.kind? here = some true := by rw [kind?, found]; rfl
    refine ih (not_link_of_isPrefix dir ?_) led
    rw [startPlace]
    split
    · exact List.nil_prefix
    · exact List.prefix_rfl
  | case9 _ here name rest _ found meant down short n other next ih =>
    refine ih (fun t' link => ?_) led
    rw [next] at link
    exact other t' (Option.some.inj link)

variable {cwd : Place} {text : String}

theorem follow_eq_ok_iff :
    disk.follow cwd text = .ok place ↔ text ≠ "" ∧ isPathTooLong text = false ∧
      disk.followFrom linkBudget (startPlace cwd text) (rawNames text) = .ok place := by
  rw [follow]
  by_cases empty : text = ""
  · simp [empty]
  · by_cases long : isPathTooLong text = true <;> simp [empty, long]

theorem Grows.follow (h : disk.Grows disk') (led : disk.follow cwd text = .ok place) :
    disk'.follow cwd text = .ok place := by
  obtain ⟨full, short, led⟩ := follow_eq_ok_iff.1 led
  exact follow_eq_ok_iff.2 ⟨full, short, h.followFrom led⟩

theorem startPlace_prefix (cwd : Place) (text : String) : startPlace cwd text <+: cwd := by
  rw [startPlace]
  split
  · exact List.nil_prefix
  · exact List.prefix_rfl

/-- A text leads from a directory to names that can be names, and to no link. -/
theorem isName_of_follow (sound : disk.Sound) (dir : disk.kind? cwd = some true)
    (clean : '\x00' ∉ text.toList) (led : disk.follow cwd text = .ok place) :
    (∀ name ∈ place, IsName name) ∧ ∀ t, disk.get? place ≠ some (.link t) := by
  have lead := startPlace_prefix cwd text
  obtain ⟨_, _, led⟩ := follow_eq_ok_iff.1 led
  refine ⟨isName_of_followFrom sound (fun name mem => ?_)
    (fun name mem => isRaw_of_mem_rawNames clean mem) led,
    not_link_of_followFrom (not_link_of_isPrefix dir lead) led⟩
  exact sound.proper.isName dir name (lead.subset mem)

/-! ## Making directories -/

variable {path : PathText} {content : α}

theorem notMem_toText {c : Char} (slash : c ≠ '/') (dot : c ≠ '.')
    (h : ∀ name ∈ path.parts, c ∉ name.toList) : c ∉ path.toText.toList := by
  obtain ⟨anchor, parts⟩ := path
  have joined := notMem_intercalate slash h
  cases anchor with
  | none =>
    rw [PathText.toText, joinNames]
    dsimp only
    split
    · simpa using dot
    · exact joined
  | top | doubleTop =>
    rw [PathText.toText, String.toList_append, List.mem_append]
    exact fun mem => mem.elim (by simpa using slash) joined

theorem nul_notMem_toText (named : ∀ name ∈ path.parts, IsName name) :
    '\x00' ∉ path.toText.toList :=
  notMem_toText (by decide) (by decide) fun name mem => (named name mem).2.2.2.2

theorem named_parent (named : ∀ name ∈ path.parts, IsName name) :
    ∀ name ∈ path.parent.parts, IsName name :=
  fun name mem => named name (List.mem_of_mem_dropLast mem)

/-- A directory entry lies in a directory, under the last name of its path. -/
theorem isName_of_entryPlace (sound : disk.Sound) (dir : disk.kind? cwd = some true)
    (named : ∀ name ∈ path.parts, IsName name) (h : disk.entryPlace cwd path = .ok place) :
    ∀ name ∈ place, IsName name := by
  rw [entryPlace] at h
  split at h
  · cases h
  · obtain ⟨above, led, h⟩ := bind_eq_ok_iff.1 h
    have start := (isName_of_follow sound dir (nul_notMem_toText (named_parent named)) led).1
    split at h
    · cases h
    · split at h
      · cases h
      · rename_i meant
        split at h
        · cases h
        · obtain rfl := Except.ok.inj h
          have last : path.name ∈ path.parts := by
            rw [PathText.name] at meant ⊢
            cases found : path.parts.getLast? with
            | none =>
              rw [found] at meant
              exact (meant (Or.inl rfl)).elim
            | some name => exact List.mem_of_getLast? found
          exact List.forall_mem_append.2 ⟨start, List.forall_mem_singleton.2 (named _ last)⟩
    · cases h

theorem grows_makeEntry (sound : disk.Sound) (dir : disk.kind? cwd = some true)
    (named : ∀ name ∈ path.parts, IsName name)
    (made : disk.makeEntry cwd path (.dir []) = .ok disk') : disk.Grows disk' := by
  rw [makeEntry] at made
  obtain ⟨place, entry, made⟩ := bind_eq_ok_iff.1 made
  split at made
  · cases made
  · rename_i free
    have free : disk.get? place = none := Option.not_isSome_iff_eq_none.1 free
    cases put : disk.put place (.dir []) with
    | none =>
      rw [put] at made
      cases made
    | some n =>
      rw [put] at made
      obtain rfl := Except.ok.inj made
      refine .of_put put ?_ (fun t => ?_) (fun q t => ?_) ?_
        (isName_of_entryPlace sound dir named entry)
      · rw [kind?, free]
        rintro ⟨⟩
      · rw [free]
        rintro ⟨⟩
      · cases q <;> rintro ⟨⟩
      · exact proper_dir_iff.2 ⟨List.nodup_nil, List.forall_mem_nil _, List.forall_mem_nil _⟩

theorem eq_of_acceptDir {fault : DiskFault} (h : disk.acceptDir cwd path fault = .ok disk') :
    disk' = disk := by
  rw [acceptDir] at h
  split at h
  · exact (Except.ok.inj h).symm
  · cases h
  · cases h

/-- **Making directories** changes no link and takes no directory away. -/
theorem grows_makeDirs (sound : disk.Sound) (dir : disk.kind? cwd = some true)
    (named : ∀ name ∈ path.parts, IsName name) (made : disk.makeDirs cwd path = .ok disk') :
    disk.Grows disk' := by
  fun_induction makeDirs disk cwd path generalizing disk' with
  | case1 path n entry =>
    obtain rfl := Except.ok.inj made
    exact grows_makeEntry sound dir named entry
  | case2 path fault entry missing ih =>
    obtain ⟨n, above, made⟩ := bind_eq_ok_iff.1 made
    have grown := ih (named_parent named) above
    cases entry' : n.makeEntry cwd path (.dir []) with
    | ok n' =>
      rw [entry'] at made
      obtain rfl := Except.ok.inj made
      exact grown.trans (grows_makeEntry (grown.sound sound) (grown.dirs cwd dir) named entry')
    | error fault =>
      rw [entry'] at made
      obtain rfl := eq_of_acceptDir made
      exact grown
  | case3 path fault entry present =>
    obtain rfl := eq_of_acceptDir made
    exact .refl _

/-! ## Writing a file -/

theorem writeFile_eq_ok_iff :
    disk.writeFile place content = .ok disk' ↔
      disk.kind? place ≠ some true ∧ disk.put place (.file content) = some disk' := by
  rw [writeFile, kind?]
  split
  · rename_i es found
    simp [found, isDir]
  · rename_i other
    have noDir : (disk.get? place).map isDir ≠ some true := fun dir => by
      obtain ⟨es, found⟩ := exists_of_isDir dir
      exact other es found
    cases disk.put place (.file content) <;> simp [noDir]

/-- **A file that was written is found** under its path, on a disk that grew. -/
theorem writeAt_eq_ok (sound : disk.Sound) (dir : disk.kind? cwd = some true)
    (named : ∀ name ∈ path.parts, IsName name)
    (written : disk.writeAt cwd path content false = .ok disk') :
    disk.Grows disk' ∧ ∃ place, disk'.follow cwd path.toText = .ok place ∧
      disk'.get? place = some (.file content) := by
  rw [writeAt] at written
  obtain ⟨n, made, written⟩ := bind_eq_ok_iff.1 written
  have grown := grows_makeDirs sound dir (named_parent named) made
  have sound' := grown.sound sound
  have dir' := grown.dirs cwd dir
  obtain ⟨place, led, written⟩ := bind_eq_ok_iff.1 (mapError_eq_ok_iff.1 written)
  obtain ⟨noDir, put⟩ := writeFile_eq_ok_iff.1 written
  obtain ⟨names, noLink⟩ := isName_of_follow sound' dir' (nul_notMem_toText named) led
  have grown' : n.Grows disk' := by
    refine .of_put put noDir noLink (fun q t => ?_) (proper_file content) names
    cases q <;> rintro ⟨⟩
  refine ⟨grown.trans grown', place, grown'.follow led, ?_⟩
  have there := get?_put put []
  rwa [List.append_nil, get?_nil] at there

end TagSearch.Node
