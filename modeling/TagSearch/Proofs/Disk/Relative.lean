import TagSearch.Proofs.Disk.Path

/-!
# Relative paths

The path of a file below a directory is what has to be joined to the directory to get the file. It
is told by the names on the way and not by the texts: slashes and dots that mean nothing do not
matter, a directory is not above another one whose name continues its own, and the place of paths
with two leading slashes is not that of paths with one.

* `PathText.ofText_eq`: what a text stands for, by its leading slashes and by what lies between
  slashes.
* `isRelativeText_iff`: the texts that are written for names.
* `relativePath?_eq_some_iff`: a relative path is the one text of this kind that leads from the
  directory to the file, `relativePath?_isSome_iff` tells when there is one.
* `relativePath?_continueText`: a text that is written behind that of the directory is found again.
* `relative_paths_undo_joining`: all of it, for any two texts.
-/

namespace TagSearch

variable {path root s : String}

/-! ## What a text stands for -/

/-- **What a text stands for**: where its leading slashes let it start, and what is between slashes,
without the empty pieces and the single dots. -/
theorem PathText.ofText_eq (s : String) :
    ofText s = ⟨.ofSlashes (leadingSlashes s.toList),
      ((s.toList.splitOn '/').filter fun piece => piece ≠ [] ∧ piece ≠ ['.']).map
        String.ofList⟩ := by
  have pick : (fun piece : List Char => piece != [] && piece != ['.']) =
      fun piece => decide (piece ≠ [] ∧ piece ≠ ['.']) := by
    funext piece
    rw [Bool.eq_iff_iff]
    simp
  rw [ofText, Anchor.ofText_eq, pathNames, pieces_eq_splitOn, pick]

theorem Anchor.ofSlashes_eq_none_iff {n : Nat} : ofSlashes n = .none ↔ n = 0 := by
  unfold ofSlashes
  split <;> simp_all

/-! ## Texts of names -/

/-- The texts that are written for the names on the way from one place to another: a dot if there
is none, and else names between slashes, none of them empty or a single dot. -/
def IsRelativeText (s : String) : Prop :=
  s = "." ∨ ∀ piece ∈ s.toList.splitOn '/', piece ≠ [] ∧ piece ≠ ['.']

instance (s : String) : Decidable (IsRelativeText s) :=
  inferInstanceAs (Decidable (s = "." ∨ ∀ piece ∈ s.toList.splitOn '/', piece ≠ [] ∧ piece ≠ ['.']))

theorem isRelativeText_joinNames {names : List String} (h : ∀ name ∈ names, IsPart name) :
    IsRelativeText (joinNames names) := by
  by_cases hne : names = []
  · subst hne
    exact Or.inl rfl
  · refine Or.inr fun piece mem => ?_
    rw [joinNames_eq hne, ← pieces_eq_splitOn, pieces_intercalate hne h] at mem
    obtain ⟨name, named, rfl⟩ := List.mem_map.1 mem
    obtain ⟨full, single, _⟩ := h name named
    exact ⟨mt String.toList_eq_nil_iff.1 full, fun e => single (String.toList_inj.1 e)⟩

/-- A text whose pieces all mean something is that of its names. -/
theorem joinNames_pathNames (h : ∀ piece ∈ s.toList.splitOn '/', piece ≠ [] ∧ piece ≠ ['.']) :
    joinNames (pathNames s.toList) = s := by
  have names : pathNames s.toList = (s.toList.splitOn '/').map String.ofList := by
    rw [pathNames, pieces_eq_splitOn, List.filter_eq_self.2]
    intro piece mem
    rw [Bool.and_eq_true, bne_iff_ne, bne_iff_ne]
    exact h piece mem
  have some : pathNames s.toList ≠ [] := by
    rw [names]
    exact mt List.map_eq_nil_iff.1 (List.splitOn_ne_nil '/' s.toList)
  have chars : (String.toList ∘ String.ofList) = id := funext fun _ => String.toList_ofList
  rw [joinNames_eq some, ← String.toList_inj, String.toList_intercalate, names, List.map_map, chars,
    List.map_id]
  exact List.intercalate_splitOn '/'

/-- **The relative texts are those of names.** -/
theorem isRelativeText_iff :
    IsRelativeText s ↔ ∃ names, (∀ name ∈ names, IsPart name) ∧ joinNames names = s := by
  constructor
  · rintro (rfl | pieces)
    · exact ⟨[], List.forall_mem_nil _, rfl⟩
    · exact ⟨pathNames s.toList, fun _ => isPart_of_mem_pathNames, joinNames_pathNames pieces⟩
  · rintro ⟨names, named, rfl⟩
    exact isRelativeText_joinNames named

example : IsRelativeText "a/../b" ∧ ¬ IsRelativeText "a//b" ∧ ¬ IsRelativeText "/a" := by decide

theorem IsRelativeText.anchor_eq (h : IsRelativeText s) : (PathText.ofText s).anchor = .none := by
  obtain ⟨names, named, rfl⟩ := isRelativeText_iff.1 h
  rw [ofText_joinNames named]

/-! ## The way from a directory to a path -/

/-- There is a way to a path from the paths that start where it does and whose names are its first
ones. -/
theorem relativePath?_isSome_iff :
    (relativePath? path root).isSome ↔
      (PathText.ofText path).anchor = (PathText.ofText root).anchor ∧
        (PathText.ofText root).parts <+: (PathText.ofText path).parts := by
  simp only [relativePath?, Option.isSome_map, Option.isSome_iff_exists,
    PathText.relativeTo?_eq_some_iff, PathText.below_eq]
  constructor
  · rintro ⟨names, below⟩
    rw [below]
    exact ⟨rfl, List.prefix_append _ _⟩
  · rintro ⟨anchor, names, parts⟩
    exact ⟨names, by rw [← anchor, parts]⟩

/-- **A relative path is the text of names that, joined to the directory, gives the path.** -/
theorem relativePath?_eq_some_iff :
    relativePath? path root = some s ↔
      IsRelativeText s ∧ (PathText.ofText root).join (.ofText s) = .ofText path := by
  rw [relativePath?, Option.map_eq_some_iff]
  constructor
  · rintro ⟨names, way, rfl⟩
    have below := PathText.relativeTo?_eq_some_iff.1 way
    have named : ∀ name ∈ names, IsPart name := fun name mem =>
      PathText.isPart_of_mem_ofText (s := path) (by
        rw [below, PathText.below_eq]
        exact List.mem_append_right _ mem)
    rw [ofText_joinNames named, below]
    exact ⟨isRelativeText_joinNames named, rfl⟩
  · rintro ⟨relative, joined⟩
    obtain ⟨names, named, rfl⟩ := isRelativeText_iff.1 relative
    rw [ofText_joinNames named] at joined
    exact ⟨names, PathText.relativeTo?_eq_some_iff.2 joined.symm, rfl⟩

example :
    relativePath? "//r/./a//b/" "//r/" = some "a/b" ∧ relativePath? "a/../b" "a" = some "../b" ∧
    relativePath? "/a/b2" "/a/b" = none ∧ relativePath? "//a/b" "/a" = none := by decide

/-- The way is a dot if nothing remains. -/
theorem eq_dot_iff_of_relativePath? (h : relativePath? path root = some s) :
    s = "." ↔ (PathText.ofText path).parts = (PathText.ofText root).parts := by
  obtain ⟨relative, joined⟩ := relativePath?_eq_some_iff.1 h
  obtain ⟨names, named, rfl⟩ := isRelativeText_iff.1 relative
  rw [← joined, ofText_joinNames named]
  constructor
  · intro dot
    obtain rfl : names = [] := joinNames_injective named (List.forall_mem_nil _) dot
    exact List.append_nil _
  · intro same
    obtain rfl : names = [] := List.append_right_eq_self.1 same
    rfl

/-! ## Joined texts -/

theorem PathText.ofText_toText_join (root s : String) :
    ofText ((ofText root).join (.ofText s)).toText = (ofText root).join (.ofText s) := by
  apply ofText_toText
  intro name mem
  rw [join] at mem
  split at mem
  · exact isPart_of_mem_ofText mem
  · exact (List.mem_append.1 mem).elim isPart_of_mem_ofText isPart_of_mem_ofText

/-- A text behind that of a directory, as the entries of directories are listed: behind a slash,
unless the directory ends in one or is empty. -/
def continueText (root s : String) : String :=
  if root = "" ∨ root.toList.getLast? = some '/' then root ++ s else root ++ "/" ++ s

/-- Slashes at the start of a text are followed by others only if there is nothing else in it. -/
theorem leadingSlashes_append {s t : List Char} (h : (∃ c ∈ s, c ≠ '/') ∨ leadingSlashes t = 0) :
    leadingSlashes (s ++ t) = leadingSlashes s := by
  induction s with
  | nil => exact h.resolve_left fun ⟨_, mem, _⟩ => List.not_mem_nil mem
  | cons c s ih =>
    by_cases slash : c = '/'
    · subst slash
      have rest : (∃ c ∈ s, c ≠ '/') ∨ leadingSlashes t = 0 :=
        h.imp_left fun ⟨d, mem, other⟩ => ⟨d, (List.mem_cons.1 mem).resolve_left other, other⟩
      rw [List.cons_append, leadingSlashes_slash, leadingSlashes_slash, ih rest]
    · have start (r : List Char) : leadingSlashes (c :: r) = 0 :=
        leadingSlashes_eq_zero_iff.2 fun e => slash (Option.some.inj e)
      rw [List.cons_append, start, start]

theorem leadingSlashes_continueText (h : leadingSlashes s.toList = 0) :
    leadingSlashes (continueText root s).toList = leadingSlashes root.toList := by
  rw [continueText]
  split
  · rw [String.toList_append]
    exact leadingSlashes_append (Or.inr h)
  · rename_i opened
    obtain ⟨full, last⟩ := not_or.1 opened
    have full : root.toList ≠ [] := mt String.toList_eq_nil_iff.1 full
    have other : root.toList.getLast full ≠ '/' := fun e =>
      last (by rw [List.getLast?_eq_some_getLast full, e])
    rw [String.append_assoc, String.toList_append]
    exact leadingSlashes_append (Or.inl ⟨_, List.getLast_mem full, other⟩)

theorem pathNames_continueText (root s : String) :
    pathNames (continueText root s).toList = pathNames root.toList ++ pathNames s.toList := by
  rw [continueText]
  split
  · rename_i closed
    rw [String.toList_append]
    rcases closed with rfl | last
    · rfl
    · -- The slash at the end of the directory is the one that separates the two texts.
      obtain ⟨lead, e⟩ := List.getLast?_eq_some_iff.1 last
      have alone : pathNames (lead ++ ['/']) = pathNames lead := by
        rw [pathNames_append_slash]
        exact List.append_nil _
      rw [e, alone, List.append_assoc, List.singleton_append, pathNames_append_slash]
  · rw [String.append_assoc, String.toList_append, String.toList_append]
    exact pathNames_append_slash root.toList s.toList

theorem PathText.ofText_continueText (h : (ofText s).anchor = .none) :
    ofText (continueText root s) = (ofText root).join (.ofText s) := by
  have behind : leadingSlashes s.toList = 0 := by
    rw [ofText, Anchor.ofText_eq] at h
    exact Anchor.ofSlashes_eq_none_iff.1 h
  have relative : ¬ (ofText s).isAbsolute = true := by
    rw [isAbsolute, h]
    exact Bool.noConfusion
  rw [join, if_neg relative, ofText, Anchor.ofText_eq, leadingSlashes_continueText behind,
    pathNames_continueText, ← Anchor.ofText_eq]
  rfl

/-- A relative text behind that of a directory is found again. -/
theorem relativePath?_continueText (root : String) (h : IsRelativeText s) :
    relativePath? (continueText root s) root = some s :=
  relativePath?_eq_some_iff.2 ⟨h, (PathText.ofText_continueText h.anchor_eq).symm⟩

/-! ## All of it -/

/-- **Relative paths undo joining.** There is a relative path from a directory to the paths that
start where it does and whose names begin with its own. It is the text of names that leads to the
path when it is joined to the directory, a dot if nothing remains, and whatever text of names is
joined to the directory, as a path or as a text, is found again. -/
theorem relative_paths_undo_joining (path root : String) :
    (∀ text, PathText.ofText text = ⟨.ofSlashes (leadingSlashes text.toList),
      ((text.toList.splitOn '/').filter fun piece => piece ≠ [] ∧ piece ≠ ['.']).map
        String.ofList⟩) ∧
    ((relativePath? path root).isSome ↔
      (PathText.ofText path).anchor = (PathText.ofText root).anchor ∧
        (PathText.ofText root).parts <+: (PathText.ofText path).parts) ∧
    (∀ s, relativePath? path root = some s ↔
      IsRelativeText s ∧ (PathText.ofText root).join (.ofText s) = .ofText path) ∧
    (∀ s ∈ relativePath? path root,
      s = "." ↔ (PathText.ofText path).parts = (PathText.ofText root).parts) ∧
    ∀ s, IsRelativeText s →
      relativePath? ((PathText.ofText root).join (.ofText s)).toText root = some s ∧
      relativePath? (continueText root s) root = some s := by
  refine ⟨PathText.ofText_eq, relativePath?_isSome_iff, fun s => relativePath?_eq_some_iff,
    fun s way => eq_dot_iff_of_relativePath? way, fun s relative => ⟨?_, ?_⟩⟩
  · rw [relativePath?_eq_some_iff, PathText.ofText_toText_join]
    exact ⟨relative, rfl⟩
  · exact relativePath?_continueText root relative

end TagSearch
