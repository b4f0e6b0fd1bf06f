import TagSearch.Proofs.Disk.Write

/-!
# Resolved paths

A path that is resolved starts at the top, and its names are names that entries of directories can
have. Unless links in a cycle were met it passes through no link, and then it resolves to itself.
What a path resolves to is settled by the links of the disk.

* `Node.Linkless` and `Node.IsDirect`: places and paths that pass through no link.
* `Node.resolved_resolveFrom`: what a way through links arrives at.
* `Node.resolveFrom_congr`: the same links lead the same way.
* `Node.resolve_of_isDirect`: what is resolved without a cycle stays as it is.
-/

namespace TagSearch.Node

variable {α : Type} {disk disk' : Node α} {cwd place : Place} {path resolved : PathText}

/-! ## Places without links -/

/-- No link is on the way to a place, nor at it. -/
def Linkless (disk : Node α) (place : Place) : Prop :=
  ∀ p, p <+: place → ∀ t, disk.get? p ≠ some (.link t)

/-- A path starts at the top and passes through no link. -/
structure IsDirect (disk : Node α) (path : PathText) : Prop where
  top : path.anchor = .top
  linkless : disk.Linkless path.parts

theorem Linkless.of_isPrefix {p : Place} (h : disk.Linkless place) (lead : p <+: place) :
    disk.Linkless p := fun q hq => h q (hq.trans lead)

theorem Linkless.concat {name : String} (h : disk.Linkless place)
    (next : ∀ t, disk.get? (place ++ [name]) ≠ some (.link t)) :
    disk.Linkless (place ++ [name]) := by
  intro p lead
  rcases List.prefix_concat_iff.1 lead with rfl | lead
  · exact next
  · exact h p lead

theorem Linkless.congr (h : disk.Linkless place) (same : disk.SameLinks disk') :
    disk'.Linkless place := fun p lead t link => h p lead t ((same p t).2 link)

/-- Whether links are on the way to a place is told by the links of the disk. -/
theorem linkless_of_links {es : List (String × Node α)} (proper : (Node.dir es).Proper)
    (apart : ∀ p ∈ (Node.dir es).links, ¬ p <+: place) : (Node.dir es).Linkless place :=
  fun p lead _ link => apart p (mem_links_of_link proper link) lead

theorem linkless_of_isDir (dir : disk.kind? place = some true) : disk.Linkless place :=
  fun _ lead => not_link_of_isPrefix dir lead

/-! ## Where ways arrive -/

/-- A name that may stand in a path: one of an entry, or the one that leads up. -/
def IsStep (name : String) : Prop := IsPart name ∧ '\x00' ∉ name.toList

theorem IsName.isStep {name : String} (h : IsName name) : IsStep name :=
  ⟨h.isPart, h.2.2.2.2⟩

theorem IsStep.isName {name : String} (h : IsStep name) (down : name ≠ "..") : IsName name :=
  ⟨h.1.1, h.1.2.1, down, h.1.2.2, h.2⟩

theorem IsStep.isRaw {name : String} (h : IsStep name) : IsRaw name := ⟨h.1.2.2, h.2⟩

theorem isStep_of_mem_ofText {s name : String} (clean : '\x00' ∉ s.toList)
    (h : name ∈ (PathText.ofText s).parts) : IsStep name := by
  refine ⟨PathText.isPart_of_mem_ofText h, fun nul => clean ?_⟩
  obtain ⟨piece, mem, rfl⟩ := List.mem_map.1 h
  rw [String.toList_ofList] at nul
  exact mem_of_mem_pieces (List.mem_filter.1 mem).1 nul

theorem isStep_of_mem_ofNames {names : List String} (raw : ∀ name ∈ names, IsRaw name)
    {name : String} (h : name ∈ (PathText.ofNames names).parts) : IsStep name :=
  isStep_of_mem_ofText (notMem_intercalate (by decide) fun name mem => (raw name mem).2) h

/-- What a way arrives at: a place without links, or a path from the top that is still to follow. -/
def Resolved (disk : Node α) : Except PathText Route → Prop
  | .ok r => (∀ name ∈ r.place, IsName name) ∧ disk.Linkless r.place
  | .error p => p.isAbsolute = true ∧ ∀ name ∈ p.parts, IsStep name

/-- A path from the top that is continued. -/
theorem resolved_join {p : PathText} {names : List String}
    (h : p.isAbsolute = true ∧ ∀ name ∈ p.parts, IsStep name)
    (raw : ∀ name ∈ names, IsRaw name) : Resolved disk (.error (p.join (.ofNames names))) := by
  have steps : ∀ name ∈ (PathText.ofNames names).parts, IsStep name :=
    fun name mem => isStep_of_mem_ofNames raw mem
  rw [PathText.join]
  split
  · rename_i absolute
    exact ⟨absolute, steps⟩
  · exact ⟨h.1, List.forall_mem_append.2 ⟨h.2, steps⟩⟩

theorem linkStart_names {here : Route} (start : ∀ name ∈ here.place, IsName name)
    (target : String) : ∀ name ∈ (here.linkStart target).place, IsName name := by
  rw [Route.linkStart]
  split
  · exact List.forall_mem_nil _
  · exact start

theorem linkStart_linkless {here : Route} (linkless : disk.Linkless here.place)
    (target : String) : disk.Linkless (here.linkStart target).place := by
  rw [Route.linkStart]
  split
  · exact linkless.of_isPrefix List.nil_prefix
  · exact linkless

/-- **Where a way through links arrives.** -/
theorem resolved_resolveFrom (sound : disk.Sound) {opened : List Route} {here : Route}
    {names : List String} (start : ∀ name ∈ here.place, IsName name)
    (linkless : disk.Linkless here.place) (raw : ∀ name ∈ names, IsRaw name) :
    Resolved disk (disk.resolveFrom cwd opened here names) := by
  fun_induction resolveFrom disk cwd opened here names with
  | case1 => exact ⟨start, linkless⟩
  | case2 opened here name rest _ ih => exact ih start linkless (List.forall_mem_cons.1 raw).2
  | case3 opened here rest _ ih =>
    refine ih (fun name mem => start name (List.mem_of_mem_dropLast mem)) ?_
      (List.forall_mem_cons.1 raw).2
    exact linkless.of_isPrefix (List.dropLast_prefix _)
  | case4 opened here name rest meant down target link mem there inner ih ih' =>
    have targets : ∀ name ∈ rawNames target, IsRaw name := fun name mem =>
      isRaw_of_mem_rawNames (sound.targets _ _ link) mem
    have through := ih (linkStart_names start target) (linkStart_linkless linkless target) targets
    rw [inner] at through
    exact ih' through.1 through.2 (List.forall_mem_cons.1 raw).2
  | case5 opened here name rest meant down target link mem p inner ih =>
    have targets : ∀ name ∈ rawNames target, IsRaw name := fun name mem =>
      isRaw_of_mem_rawNames (sound.targets _ _ link) mem
    have stuck := ih (linkStart_names start target) (linkStart_linkless linkless target) targets
    rw [inner] at stuck
    exact resolved_join stuck (List.forall_mem_cons.1 raw).2
  | case6 opened here name rest meant down target link closed =>
    have named := (raw name List.mem_cons_self).isName meant down
    refine resolved_join ⟨rfl, fun k mem => IsName.isStep ?_⟩ (List.forall_mem_cons.1 raw).2
    exact List.forall_mem_append.2 ⟨start, List.forall_mem_singleton.2 named⟩ k mem
  | case7 opened here name rest meant down other ih =>
    have named := (raw name List.mem_cons_self).isName meant down
    refine ih (List.forall_mem_append.2 ⟨start, List.forall_mem_singleton.2 named⟩) ?_
      (List.forall_mem_cons.1 raw).2
    exact linkless.concat fun t link => other t link

/-! ## The same links -/

/-- **The same links lead the same way**, in whatever order they are listed. -/
theorem resolveFrom_congr (same : disk.SameLinks disk') {opened opened' : List Route}
    (perm : opened.Perm opened') (here : Route) (names : List String) :
    disk.resolveFrom cwd opened here names = disk'.resolveFrom cwd opened' here names := by
  fun_induction resolveFrom disk cwd opened here names generalizing opened' with
  | case1 => rw [resolveFrom]
  | case2 opened here name rest meant ih =>
    rw [resolveFrom, if_pos meant]
    exact ih perm
  | case3 opened here rest meant ih =>
    rw [resolveFrom, if_neg meant, if_pos rfl]
    exact ih perm
  | case4 opened here name rest meant down target link mem there inner ih ih' =>
    rw [resolveFrom, if_neg meant, if_neg down, (same _ _).1 link]
    dsimp only
    rw [if_pos (perm.subset mem), ← ih (perm.erase _), inner]
    exact ih' perm
  | case5 opened here name rest meant down target link mem p inner ih =>
    rw [resolveFrom, if_neg meant, if_neg down, (same _ _).1 link]
    dsimp only
    rw [if_pos (perm.subset mem), ← ih (perm.erase _), inner]
  | case6 opened here name rest meant down target link closed =>
    rw [resolveFrom, if_neg meant, if_neg down, (same _ _).1 link]
    dsimp only
    rw [if_neg fun mem => closed (perm.symm.subset mem)]
  | case7 opened here name rest meant down other ih =>
    rw [resolveFrom, if_neg meant, if_neg down, ih perm]
    split
    · rename_i target link
      exact (other target ((same _ _).2 link)).elim
    · rfl

/-- Names on which there is no link are passed one after the other. -/
theorem resolveFrom_linkless {opened : List Route} {here : Route} {names : List String}
    (named : ∀ name ∈ names, IsName name) (linkless : disk.Linkless (here.place ++ names)) :
    disk.resolveFrom cwd opened here names = .ok { here with place := here.place ++ names } := by
  induction names generalizing here with
  | nil => rw [resolveFrom, List.append_nil]
  | cons name names ih =>
    obtain ⟨⟨full, single, double, _⟩, named⟩ := List.forall_mem_cons.1 named
    have split : here.place ++ name :: names = (here.down name).place ++ names := by
      rw [Route.down, List.append_assoc, List.singleton_append]
    rw [split] at linkless ⊢
    rw [resolveFrom, if_neg (not_or.2 ⟨full, single⟩), if_neg double]
    split
    · rename_i target link
      exact (linkless _ (List.prefix_append _ _) target link).elim
    · exact ih named linkless

/-! ## Resolved paths -/

/-- Resolving a path runs into links in a cycle. -/
def MeetsCycle (disk : Node α) (cwd : Place) (path : PathText) : Prop :=
  ∃ p, disk.resolveFrom cwd (disk.linkRoutes cwd) (.start cwd path) path.parts = .error p

/-- The names of a path without those that lead up. -/
theorem mem_of_mem_collapse {name : String} (h : name ∈ path.collapse.parts) :
    name ∈ path.parts ∧ name ≠ ".." := by
  have step : ∀ (parts kept : List String), name ∈ parts.foldl
      (fun names name => if name = ".." then names.dropLast else names ++ [name]) kept →
      name ∈ kept ∨ name ∈ parts ∧ name ≠ ".." := by
    intro parts
    induction parts with
    | nil => exact fun kept mem => Or.inl mem
    | cons k parts ih =>
      intro kept mem
      rw [List.foldl_cons] at mem
      rcases ih _ mem with mem | ⟨mem, other⟩
      · split at mem
        · exact Or.inl (List.mem_of_mem_dropLast mem)
        · rename_i other
          rcases List.mem_append.1 mem with mem | mem
          · exact Or.inl mem
          · obtain rfl := List.mem_singleton.1 mem
            exact Or.inr ⟨List.mem_cons_self, other⟩
      · exact Or.inr ⟨List.mem_cons_of_mem _ mem, other⟩
  exact (step path.parts [] h).resolve_left List.not_mem_nil

/-- A path that resolves has no NUL, and resolves to the place that its way arrives at or to what
was still to follow. -/
theorem of_resolve_eq_ok (h : disk.resolve cwd path = .ok resolved) :
    (∀ name ∈ path.parts, '\x00' ∉ name.toList) ∧
    ((∃ r, disk.resolveFrom cwd (disk.linkRoutes cwd) (.start cwd path) path.parts = .ok r ∧
        resolved = .ofPlace r.place) ∨
      ∃ p, disk.resolveFrom cwd (disk.linkRoutes cwd) (.start cwd path) path.parts = .error p ∧
        resolved = p.collapse) := by
  rw [resolve] at h
  split at h
  · cases h
  · rename_i clean
    refine ⟨by simpa using clean, ?_⟩
    cases way : disk.resolveFrom cwd (disk.linkRoutes cwd) (.start cwd path) path.parts with
    | ok r =>
      rw [way] at h
      exact Or.inl ⟨r, rfl, (Except.ok.inj h).symm⟩
    | error p =>
      rw [way] at h
      dsimp only at h
      split at h
      · cases h
      · exact Or.inr ⟨p, rfl, (Except.ok.inj h).symm⟩

/-- A path without NUL resolves as its way arrives. -/
theorem resolve_of_clean (clean : ∀ name ∈ path.parts, '\x00' ∉ name.toList) :
    disk.resolve cwd path =
      match disk.resolveFrom cwd (disk.linkRoutes cwd) (.start cwd path) path.parts with
      | .ok r => .ok (.ofPlace r.place)
      | .error p =>
        match disk.locate [] p.collapse.toText with
        | .error .tooManyLinks => .error (.cycle p.collapse)
        | _ => .ok p.collapse := by
  have noNul : ¬ (path.parts.any fun name => name.toList.contains '\x00') = true := by
    simpa using clean
  rewrite [resolve, if_neg noNul]
  rfl

/-- A way starts at the top or in the current directory. -/
theorem start_prefix (cwd : Place) (path : PathText) : (Route.start cwd path).place <+: cwd := by
  rw [Route.start]
  split
  · exact List.nil_prefix
  · exact List.prefix_rfl

section

variable (sound : disk.Sound) (dir : disk.kind? cwd = some true)
  (written : ∀ name ∈ path.parts, IsPart name) (h : disk.resolve cwd path = .ok resolved)

include sound dir written h

/-- What the way of a path that resolves arrives at. -/
theorem resolved_of_resolve : Resolved disk
    (disk.resolveFrom cwd (disk.linkRoutes cwd) (.start cwd path) path.parts) := by
  have lead := start_prefix cwd path
  refine resolved_resolveFrom sound (fun name mem => ?_)
    ((linkless_of_isDir dir).of_isPrefix lead) fun name mem => ?_
  · exact sound.proper.isName dir name (lead.subset mem)
  · exact ⟨(written name mem).2.2, (of_resolve_eq_ok h).1 name mem⟩

/-- **A resolved path** starts at a top, and its names can be names of entries. -/
theorem isName_of_resolve :
    resolved.isAbsolute = true ∧ ∀ name ∈ resolved.parts, IsName name := by
  have arrives := resolved_of_resolve sound dir written h
  obtain ⟨_, ⟨r, way, rfl⟩ | ⟨p, way, rfl⟩⟩ := of_resolve_eq_ok h
  · rw [way] at arrives
    exact ⟨rfl, arrives.1⟩
  · rw [way] at arrives
    refine ⟨arrives.1, fun name mem => ?_⟩
    obtain ⟨mem, down⟩ := mem_of_mem_collapse mem
    exact (arrives.2 name mem).isName down

/-- **A path that is resolved without a cycle** passes through no link. -/
theorem isDirect_of_resolve (straight : ¬ disk.MeetsCycle cwd path) :
    disk.IsDirect resolved := by
  have arrives := resolved_of_resolve sound dir written h
  obtain ⟨_, ⟨r, way, rfl⟩ | ⟨p, way, rfl⟩⟩ := of_resolve_eq_ok h
  · rw [way] at arrives
    exact ⟨rfl, arrives.2⟩
  · exact (straight ⟨p, way⟩).elim

end

/-- **A path that passes through no link resolves to itself.** -/
theorem resolve_of_isDirect (direct : disk.IsDirect path)
    (named : ∀ name ∈ path.parts, IsName name) : disk.resolve cwd path = .ok path := by
  obtain ⟨anchor, parts⟩ := path
  obtain ⟨rfl, linkless⟩ := direct
  have way : disk.resolveFrom cwd (disk.linkRoutes cwd) (.start cwd ⟨.top, parts⟩) parts =
      .ok ⟨parts, none⟩ := resolveFrom_linkless named linkless
  rw [resolve_of_clean fun name mem => (named name mem).2.2.2.2, way]
  rfl

theorem startPlace_of_isAbsolute (absolute : path.isAbsolute = true) (cwd : Place) :
    startPlace cwd path.toText = [] := by
  obtain ⟨anchor, parts⟩ := path
  cases anchor with
  | none => cases absolute
  | top | doubleTop =>
    rw [startPlace, PathText.toText, String.toList_append]
    exact if_pos rfl

/-- **What a path resolves to does not change** when the disk grows, if something is found there. -/
theorem resolve_of_grows (sound : disk.Sound) (grown : disk.Grows disk')
    (h : disk.resolve cwd path = .ok resolved) (absolute : resolved.isAbsolute = true)
    (led : disk'.follow cwd resolved.toText = .ok place)
    (there : (disk'.get? place).isSome = true) : disk'.resolve cwd path = .ok resolved := by
  have ways := linkRoutes_perm grown.links sound.proper (grown.sound sound).proper cwd
  have same : disk.resolveFrom cwd (disk.linkRoutes cwd) (.start cwd path) path.parts =
      disk'.resolveFrom cwd (disk'.linkRoutes cwd) (.start cwd path) path.parts :=
    resolveFrom_congr grown.links ways _ _
  obtain ⟨clean, arrives⟩ := of_resolve_eq_ok h
  rw [resolve_of_clean clean, ← same]
  rcases arrives with ⟨r, way, rfl⟩ | ⟨p, way, rfl⟩
  · rw [way]
  · have found : disk'.locate [] p.collapse.toText = .ok place := by
      refine locate_eq_ok_iff.2 ⟨?_, there⟩
      rw [follow_eq_ok_iff, startPlace_of_isAbsolute absolute] at led ⊢
      exact led
    rw [way]
    dsimp only
    rw [found]

/-! ## Looking resolved paths up -/

theorem followFrom_ne_nameTooLong {budget : Nat} {here : Place} {names : List String}
    (named : ∀ name ∈ names, IsName name) (linkless : disk.Linkless (here ++ names))
    (short : ∀ name ∈ names, isNameTooLong name = false) :
    disk.followFrom budget here names ≠ .error .nameTooLong := by
  induction names generalizing here with
  | nil =>
    rw [followFrom]
    rintro ⟨⟩
  | cons name names ih =>
    obtain ⟨⟨full, single, double, _⟩, named⟩ := List.forall_mem_cons.1 named
    obtain ⟨fits, short⟩ := List.forall_mem_cons.1 short
    have split : here ++ name :: names = here ++ [name] ++ names := by
      rw [List.append_assoc, List.singleton_append]
    rw [split] at linkless
    rw [followFrom]
    split
    · rw [if_neg (not_or.2 ⟨full, single⟩), if_neg double, if_neg (by simp [fits])]
      split
      · split <;> rintro ⟨⟩
      · rename_i target link
        exact (linkless _ (List.prefix_append _ _) target link).elim
      · exact ih named linkless short
    · rintro ⟨⟩

theorem stat_eq_nameTooLong {text : String} (h : disk.stat cwd text = .error .nameTooLong) :
    disk.follow cwd text = .error .nameTooLong := by
  rw [stat] at h
  rcases bind_eq_error_iff.1 h with h | ⟨place, _, h⟩
  · exact h
  · cases found : disk.get? place <;> rw [found] at h <;> cases h

/-- A path can be looked up unless it is too long to be followed. -/
theorem exists_find?_of_follow (h : disk.follow cwd path.toText ≠ .error .nameTooLong) :
    ∃ n, disk.find? cwd path = .ok n := by
  rw [find?]
  cases found : disk.stat cwd path.toText with
  | ok n => exact ⟨some n, rfl⟩
  | error fault =>
    cases fault with
    | nameTooLong => exact (h (stat_eq_nameTooLong found)).elim
    | _ => exact ⟨none, rfl⟩

/-- The text of a path that can be looked up is not too long. -/
theorem isPathTooLong_of_find? {n : Option (Node α)} (h : disk.find? cwd path = .ok n) :
    isPathTooLong path.toText = false := by
  refine eq_false_of_ne_true fun long => ?_
  have empty : path.toText ≠ "" := by
    intro empty
    rw [empty] at long
    exact absurd long (by decide)
  rw [find?, stat, follow, if_neg empty, if_pos long] at h
  cases h

/-- **How a path from the top is followed**: by its names, from the top. -/
theorem follow_toText_top (top : disk.kind? [] = some true) {parts : List String}
    (named : ∀ name ∈ parts, IsName name)
    (fits : isPathTooLong (PathText.toText ⟨.top, parts⟩) = false) (cwd : Place) :
    disk.follow cwd (PathText.toText ⟨.top, parts⟩) = disk.followFrom linkBudget [] parts := by
  have full : PathText.toText ⟨.top, parts⟩ ≠ "" := by
    intro empty
    have := congrArg String.toList empty
    rw [PathText.toText, String.toList_append] at this
    cases this
  have skip (names : List String) :
      disk.followFrom linkBudget [] ("" :: names) = disk.followFrom linkBudget [] names := by
    obtain ⟨es, root⟩ := exists_of_isDir top
    rw [followFrom, root]
    exact if_pos (Or.inl rfl)
  have slash :
      rawNames (PathText.toText ⟨.top, parts⟩) = "" :: rawNames ("/".intercalate parts) := by
    refine PathText.rawNames_slash ?_
    rw [PathText.toText, String.toList_append]
    rfl
  rw [follow, if_neg full, if_neg (by simp [fits]), startPlace_of_isAbsolute rfl, slash, skip]
  by_cases empty : parts = []
  · subst empty
    exact skip []
  · rw [PathText.rawNames_intercalate (fun name mem => (named name mem).isPart) empty]

/-- **A path without links can be looked up** if neither it nor a name on it is too long. -/
theorem exists_find?_of_isDirect (top : disk.kind? [] = some true) (direct : disk.IsDirect path)
    (named : ∀ name ∈ path.parts, IsName name)
    (short : ∀ name ∈ path.parts, isNameTooLong name = false)
    (fits : isPathTooLong path.toText = false) (cwd : Place) :
    ∃ n, disk.find? cwd path = .ok n := by
  obtain ⟨anchor, parts⟩ := path
  obtain ⟨rfl, linkless⟩ := direct
  refine exists_find?_of_follow ?_
  rw [follow_toText_top top named fits]
  exact followFrom_ne_nameTooLong named linkless short

end TagSearch.Node
