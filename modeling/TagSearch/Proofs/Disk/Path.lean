import Mathlib.Data.List.Basic
import TagSearch.Catalog.Presence
import TagSearch.Disk.Locate
import TagSearch.Proofs.Catalog.Directories

/-!
# Reading path texts back

Names that entries of directories can have are read back from their path text, so that distinct
places below a directory have distinct texts, and what a text says about places it says about names.

* `Anchor.ofText_eq`: where a path starts, by the slashes that its text starts with.
* `ofText_joinNames`: the names of a text that was made from names.
* `PathText.ofText_toText`: a path is the path of its text.
* `isBelow_joinNames_iff` and `rebase_joinNames`: paths below a directory.
* `PathText.below`: a path that is continued by names.
* `PathText.rawNames_below`: the text of such a path, as it is followed on a disk.
-/

namespace TagSearch

/-! ## Pieces -/

theorem pieces_eq_splitOn (s : List Char) : pieces s = s.splitOn '/' := by
  induction s with
  | nil => rfl
  | cons c s ih =>
    rw [pieces, ih, List.splitOn_cons_eq_if_modifyHead]
    obtain ⟨piece, others, e⟩ := List.exists_cons_of_ne_nil (List.splitOn_ne_nil '/' s)
    by_cases slash : c = '/' <;> simp [e, slash]

theorem pieces_append_slash (s t : List Char) : pieces (s ++ '/' :: t) = pieces s ++ pieces t := by
  simp only [pieces_eq_splitOn, List.splitOn_append_cons_self]

theorem notMem_of_mem_pieces {s piece : List Char} (h : piece ∈ pieces s) : '/' ∉ piece := by
  induction s generalizing piece with
  | nil =>
    obtain rfl := List.mem_singleton.1 h
    exact List.not_mem_nil
  | cons c s ih =>
    rw [pieces] at h
    split at h
    · obtain rfl := List.mem_singleton.1 h
      exact List.not_mem_nil
    · rename_i first others e
      rw [e] at ih
      split at h
      · rcases List.mem_cons.1 h with rfl | mem
        · exact List.not_mem_nil
        · exact ih mem
      · rename_i other
        rcases List.mem_cons.1 h with rfl | mem
        · exact fun slash => (List.mem_cons.1 slash).elim (fun same => other same.symm)
            (ih List.mem_cons_self)
        · exact ih (List.mem_cons_of_mem _ mem)

theorem mem_of_mem_pieces {s piece : List Char} (h : piece ∈ pieces s) {c : Char} (hc : c ∈ piece) :
    c ∈ s := by
  induction s generalizing piece with
  | nil =>
    obtain rfl := List.mem_singleton.1 h
    cases hc
  | cons d s ih =>
    rw [pieces] at h
    split at h
    · obtain rfl := List.mem_singleton.1 h
      cases hc
    · rename_i first others e
      rw [e] at ih
      split at h
      · rcases List.mem_cons.1 h with rfl | mem
        · cases hc
        · exact List.mem_cons_of_mem _ (ih mem hc)
      · rcases List.mem_cons.1 h with rfl | mem
        · rcases List.mem_cons.1 hc with rfl | hc
          · exact List.mem_cons_self
          · exact List.mem_cons_of_mem _ (ih List.mem_cons_self hc)
        · exact List.mem_cons_of_mem _ (ih (List.mem_cons_of_mem _ mem) hc)

/-! ## Leading slashes -/

/-- The number of slashes at the start of a text. -/
def leadingSlashes (s : List Char) : Nat := (s.takeWhile (· == '/')).length

/-- Where a path with some number of leading slashes starts: exactly two are a top of their own. -/
def Anchor.ofSlashes : Nat → Anchor
  | 0 => .none
  | 2 => .doubleTop
  | _ => .top

theorem leadingSlashes_slash (s : List Char) : leadingSlashes ('/' :: s) = leadingSlashes s + 1 :=
  rfl

theorem leadingSlashes_eq_zero_iff {s : List Char} : leadingSlashes s = 0 ↔ s.head? ≠ some '/' := by
  cases s with
  | nil => simp [leadingSlashes]
  | cons c s => by_cases slash : c = '/' <;> simp [leadingSlashes, slash]

theorem Anchor.ofText_eq (s : List Char) : Anchor.ofText s = .ofSlashes (leadingSlashes s) := by
  have none {r : List Char} (fewer : ∀ t, r = '/' :: t → False) : leadingSlashes r = 0 :=
    leadingSlashes_eq_zero_iff.2 fun e => fewer _ (List.eq_cons_of_mem_head? e)
  unfold Anchor.ofText
  split
  · rfl
  · rename_i fewer
    rw [leadingSlashes_slash, leadingSlashes_slash, none fewer]
    rfl
  · rename_i fewer
    rw [leadingSlashes_slash, none fewer]
    rfl
  · rename_i fewer
    rw [none fewer]
    rfl

/-! ## Names -/

/-- What stands between the slashes of a text without NUL. -/
def IsRaw (name : String) : Prop := '/' ∉ name.toList ∧ '\x00' ∉ name.toList

theorem isRaw_of_mem_rawNames {s name : String} (clean : '\x00' ∉ s.toList)
    (h : name ∈ rawNames s) : IsRaw name := by
  obtain ⟨piece, mem, rfl⟩ := List.mem_map.1 h
  rw [IsRaw, String.toList_ofList]
  exact ⟨notMem_of_mem_pieces mem, fun nul => clean (mem_of_mem_pieces mem nul)⟩

theorem IsRaw.isName {name : String} (h : IsRaw name) (meant : ¬ (name = "" ∨ name = "."))
    (down : name ≠ "..") : Node.IsName name :=
  ⟨fun e => meant (Or.inl e), fun e => meant (Or.inr e), down, h.1, h.2⟩

theorem Node.IsName.isRaw {name : String} (h : Node.IsName name) : IsRaw name :=
  ⟨h.2.2.2.1, h.2.2.2.2⟩

/-- A name that stands in the text of a path. -/
def IsPart (name : String) : Prop := name ≠ "" ∧ name ≠ "." ∧ '/' ∉ name.toList

theorem Node.IsName.isPart {name : String} (h : Node.IsName name) : IsPart name :=
  ⟨h.1, h.2.1, h.2.2.2.1⟩

theorem isPart_of_mem_pathNames {s : List Char} {name : String} (h : name ∈ pathNames s) :
    IsPart name := by
  obtain ⟨piece, mem, rfl⟩ := List.mem_map.1 h
  obtain ⟨mem, meant⟩ := List.mem_filter.1 mem
  rw [Bool.and_eq_true, bne_iff_ne, bne_iff_ne] at meant
  refine ⟨fun e => meant.1 ?_, fun e => meant.2 ?_, ?_⟩
  · simpa using congrArg String.toList e
  · simpa using congrArg String.toList e
  · rw [String.toList_ofList]
    exact notMem_of_mem_pieces mem

variable {p q : List String}

theorem joinNames_eq (hp : p ≠ []) : joinNames p = "/".intercalate p := by
  rw [joinNames, if_neg (by simpa using hp)]

theorem toList_intercalate_append (hp : p ≠ []) (hq : q ≠ []) :
    ("/".intercalate (p ++ q)).toList =
      ("/".intercalate p).toList ++ '/' :: ("/".intercalate q).toList := by
  induction p with
  | nil => exact (hp rfl).elim
  | cons name p ih =>
    cases p with
    | nil =>
      obtain ⟨name', q, rfl⟩ := List.exists_cons_of_ne_nil hq
      simp [String.toList_intercalate]
    | cons name' p =>
      have ih := ih (List.cons_ne_nil _ _)
      simp only [String.toList_intercalate, List.cons_append, List.map_cons,
        List.intercalate_cons_cons] at ih ⊢
      rw [ih]
      simp

/-- The text of names that continue others. -/
theorem toList_joinNames_append (hp : p ≠ []) (hq : q ≠ []) :
    (joinNames (p ++ q)).toList = (joinNames p).toList ++ '/' :: (joinNames q).toList := by
  rw [joinNames_eq hp, joinNames_eq hq, joinNames_eq (List.append_ne_nil_of_left_ne_nil hp q),
    toList_intercalate_append hp hq]

theorem notMem_intercalate {c : Char} (slash : c ≠ '/') (h : ∀ name ∈ p, c ∉ name.toList) :
    c ∉ ("/".intercalate p).toList := by
  rw [String.toList_intercalate]
  intro mem
  rcases mem_of_mem_intercalate mem with same | ⟨s, mem, inside⟩
  · exact slash (List.mem_singleton.1 same)
  · obtain ⟨name, named, rfl⟩ := List.mem_map.1 mem
    exact h name named inside

theorem pieces_intercalate (hp : p ≠ []) (h : ∀ name ∈ p, IsPart name) :
    pieces ("/".intercalate p).toList = p.map String.toList := by
  rw [pieces_eq_splitOn, String.toList_intercalate]
  refine List.splitOn_intercalate '/' ?_ (by simpa using hp)
  intro piece mem
  obtain ⟨name, hname, rfl⟩ := List.mem_map.1 mem
  exact (h name hname).2.2

theorem pathNames_intercalate (h : ∀ name ∈ p, IsPart name) :
    pathNames ("/".intercalate p).toList = p := by
  by_cases hp : p = []
  · subst hp
    rfl
  · rw [pathNames, pieces_intercalate hp h, List.filter_eq_self.2, List.map_map]
    · simp
    · intro piece mem
      obtain ⟨name, hname, rfl⟩ := List.mem_map.1 mem
      obtain ⟨full, single, _⟩ := h name hname
      rw [Bool.and_eq_true, bne_iff_ne, bne_iff_ne]
      refine ⟨fun e => full ?_, fun e => single ?_⟩
      · rw [← String.ofList_toList (s := name), e]
      · rw [← String.ofList_toList (s := name), e]

theorem pathNames_joinNames (h : ∀ name ∈ p, IsPart name) : pathNames (joinNames p).toList = p := by
  by_cases hp : p = []
  · subst hp
    rfl
  · rw [joinNames_eq hp, pathNames_intercalate h]

/-- **Names are read back from their text.** -/
theorem joinNames_injective (hp : ∀ name ∈ p, IsPart name) (hq : ∀ name ∈ q, IsPart name)
    (same : joinNames p = joinNames q) : p = q := by
  rw [← pathNames_joinNames hp, same, pathNames_joinNames hq]

/-- The text of names starts with the first one. -/
theorem exists_head_intercalate (hp : p ≠ []) (h : ∀ name ∈ p, IsPart name) :
    ∃ c s, ("/".intercalate p).toList = c :: s ∧ c ≠ '/' := by
  obtain ⟨name, p, rfl⟩ := List.exists_cons_of_ne_nil hp
  obtain ⟨full, _, unslashed⟩ := h name List.mem_cons_self
  obtain ⟨c, s, e⟩ := List.exists_cons_of_ne_nil (mt String.toList_eq_nil_iff.1 full)
  have apart : c ≠ '/' := fun same => unslashed (by rw [e, same]; exact List.mem_cons_self)
  cases p with
  | nil => exact ⟨c, s, e, apart⟩
  | cons name' p =>
    have joined := toList_intercalate_append (List.cons_ne_nil name []) (List.cons_ne_nil name' p)
    exact ⟨c, s ++ '/' :: ("/".intercalate (name' :: p)).toList,
      joined.trans (congrArg (· ++ _) e), apart⟩

theorem leadingSlashes_intercalate (h : ∀ name ∈ p, IsPart name) :
    leadingSlashes ("/".intercalate p).toList = 0 := by
  by_cases hp : p = []
  · subst hp
    rfl
  · obtain ⟨c, s, e, apart⟩ := exists_head_intercalate hp h
    rw [leadingSlashes_eq_zero_iff, e]
    exact fun same => apart (Option.some.inj same)

theorem leadingSlashes_joinNames (h : ∀ name ∈ p, IsPart name) :
    leadingSlashes (joinNames p).toList = 0 := by
  by_cases hp : p = []
  · subst hp
    rfl
  · rw [joinNames_eq hp, leadingSlashes_intercalate h]

/-- **The path of a text that was made from names.** -/
theorem ofText_joinNames (h : ∀ name ∈ p, IsPart name) :
    PathText.ofText (joinNames p) = ⟨.none, p⟩ := by
  rw [PathText.ofText, pathNames_joinNames h, Anchor.ofText_eq, leadingSlashes_joinNames h]
  rfl

theorem pathNames_append_slash (s t : List Char) :
    pathNames (s ++ '/' :: t) = pathNames s ++ pathNames t := by
  rw [pathNames, pieces_append_slash, List.filter_append, List.map_append]
  rfl

theorem pathNames_slash (s : List Char) : pathNames ('/' :: s) = pathNames s :=
  pathNames_append_slash [] s

/-- **A path is the path of its text.** -/
theorem PathText.ofText_toText {path : PathText} (h : ∀ name ∈ path.parts, IsPart name) :
    ofText path.toText = path := by
  obtain ⟨anchor, parts⟩ := path
  have slashes := leadingSlashes_intercalate h
  have names : pathNames ("/".intercalate parts).toList = parts := pathNames_intercalate h
  cases anchor with
  | none => exact ofText_joinNames h
  | top =>
    have text : (toText ⟨.top, parts⟩).toList = '/' :: ("/".intercalate parts).toList := by
      rw [toText, String.toList_append]
      rfl
    rw [ofText, text, pathNames_slash, names, Anchor.ofText_eq, leadingSlashes_slash, slashes]
    rfl
  | doubleTop =>
    have text : (toText ⟨.doubleTop, parts⟩).toList =
        '/' :: '/' :: ("/".intercalate parts).toList := by
      rw [toText, String.toList_append]
      rfl
    rw [ofText, text, pathNames_slash, pathNames_slash, names, Anchor.ofText_eq,
      leadingSlashes_slash, leadingSlashes_slash, slashes]
    rfl

/-! ## Below a directory -/

/-- A text that continues another one after a slash is of names that continue the others. -/
theorem lead_prefix_joinNames_iff (hp : p ≠ []) (named : ∀ name ∈ p, IsPart name) (hq : q ≠ [])
    (named' : ∀ name ∈ q, IsPart name) :
    (joinNames p).toList ++ ['/'] <+: (joinNames q).toList ↔ ∃ r ≠ [], q = p ++ r := by
  constructor
  · rintro ⟨rest, e⟩
    rw [List.append_assoc, List.singleton_append] at e
    have split := congrArg pieces e.symm
    rw [pieces_append_slash, joinNames_eq hp, joinNames_eq hq, pieces_intercalate hp named,
      pieces_intercalate hq named'] at split
    obtain ⟨front, back, rfl, same, rest⟩ := List.map_eq_append_iff.1 split
    obtain rfl := (List.map_inj_right fun _ _ => String.toList_inj.1).1 same
    refine ⟨back, ?_, rfl⟩
    rintro rfl
    rw [List.map_nil, pieces_eq_splitOn] at rest
    exact List.splitOn_ne_nil _ _ rest.symm
  · rintro ⟨r, hr, rfl⟩
    exact ⟨(joinNames r).toList, by
      rw [toList_joinNames_append hp hr, List.append_assoc, List.singleton_append]⟩

theorem nul_not_mem_joinNames (hp : p ≠ []) (named : ∀ name ∈ p, Node.IsName name) :
    '\x00' ∉ (joinNames p).toList := by
  rw [joinNames_eq hp]
  exact notMem_intercalate (by decide) fun name mem => (named name mem).2.2.2.2

/-- **The paths below a directory** are those of the places below it. -/
theorem isBelow_joinNames_iff (hp : p ≠ []) (named : ∀ name ∈ p, IsPart name) (hq : q ≠ [])
    (named' : ∀ name ∈ q, Node.IsName name) :
    Catalog.isBelow (joinNames p) (joinNames q) = true ↔ ∃ r ≠ [], q = p ++ r := by
  have clean : (joinNames q).toList.takeWhile (· != '\x00') = (joinNames q).toList := by
    refine List.takeWhile_eq_self_iff.2 fun c mem => bne_iff_ne.2 ?_
    rintro rfl
    exact nul_not_mem_joinNames hq named' mem
  rw [← lead_prefix_joinNames_iff hp named hq fun name mem => (named' name mem).isPart,
    Catalog.isBelow, clean, List.prefix_iff_eq_take, beq_iff_eq]
  exact eq_comm

theorem apart_joinNames (hp : p ≠ []) (named : ∀ name ∈ p, IsPart name) (hq : q ≠ [])
    (named' : ∀ name ∈ q, IsPart name) (below : ¬ p <+: q) (above : ¬ q <+: p) :
    Catalog.Apart (joinNames p) (joinNames q) := by
  constructor
  · intro lead
    obtain ⟨r, _, rfl⟩ := (lead_prefix_joinNames_iff hp named hq named').1 lead
    exact below (List.prefix_append p r)
  · intro lead
    obtain ⟨r, _, rfl⟩ := (lead_prefix_joinNames_iff hq named' hp named).1 lead
    exact above (List.prefix_append q r)

/-- The path of a place below a directory, after the directory has moved. -/
theorem rebase_joinNames {new : List String} (hp : p ≠ []) (hq : q ≠ []) (hnew : new ≠ []) :
    Catalog.rebase (joinNames p) (joinNames new) (joinNames (p ++ q)) = joinNames (new ++ q) := by
  apply String.toList_injective
  rw [Catalog.toList_rebase (toList_joinNames_append hp hq), toList_joinNames_append hnew hq]

/-! ## Paths that are continued -/

namespace PathText

theorem isPart_of_mem_ofText {s name : String} (h : name ∈ (ofText s).parts) : IsPart name :=
  isPart_of_mem_pathNames h

/-- The path that is continued by names. -/
def below (root : PathText) (names : List String) : PathText := root.join ⟨.none, names⟩

theorem below_eq (root : PathText) (names : List String) :
    root.below names = ⟨root.anchor, root.parts ++ names⟩ := rfl

theorem relativeTo?_below (root : PathText) (names : List String) :
    (root.below names).relativeTo? root = some names := by
  rw [below_eq, relativeTo?, if_pos rfl]
  simp

theorem relativeTo?_eq_some_iff {p root : PathText} {names : List String} :
    p.relativeTo? root = some names ↔ p = root.below names := by
  constructor
  · intro h
    rw [relativeTo?] at h
    split at h
    · rename_i anchor
      split at h
      · rename_i lead
        obtain ⟨rest, e⟩ := List.isPrefixOf_iff_prefix.1 lead
        rw [← e, List.drop_left] at h
        rw [below_eq, ← Option.some.inj h, e, ← anchor]
      · cases h
    · cases h
  · rintro rfl
    exact relativeTo?_below root names

theorem join_below (root : PathText) (p q : List String) :
    (root.below p).join ⟨.none, q⟩ = root.below (p ++ q) := by
  rw [below_eq, below_eq, ← List.append_assoc]
  rfl

/-- The names between the slashes of a text that starts with a slash. -/
theorem rawNames_slash {s t : String} (h : s.toList = '/' :: t.toList) :
    rawNames s = "" :: rawNames t := by
  rw [rawNames, rawNames, h, ← List.nil_append ('/' :: t.toList), pieces_append_slash,
    List.map_append]
  rfl

theorem rawNames_intercalate {names : List String} (named : ∀ name ∈ names, IsPart name)
    (hne : names ≠ []) : rawNames ("/".intercalate names) = names := by
  rw [rawNames, pieces_intercalate hne named, List.map_map]
  simp

/-- **How the text of a path that is continued by names is followed**: as that of the path, by the
names that are left of it without a first one that means nothing, and then by the names. -/
theorem rawNames_below {root : PathText} (rooted : ∀ name ∈ root.parts, IsPart name)
    {names : List String} (named : ∀ name ∈ names, IsPart name) (hne : names ≠ []) :
    ∃ lead, rawNames (root.below names).toText = lead ++ names ∧
      (rawNames root.toText = lead ∨
        ∃ name, (name = "" ∨ name = ".") ∧ rawNames root.toText = name :: lead) := by
  obtain ⟨anchor, parts⟩ := root
  have whole : rawNames ("/".intercalate (parts ++ names)) = parts ++ names :=
    rawNames_intercalate (List.forall_mem_append.2 ⟨rooted, named⟩)
      (List.append_ne_nil_of_right_ne_nil parts hne)
  have single (t : String) : rawNames ("/" ++ t) = "" :: rawNames t :=
    rawNames_slash (by rw [String.toList_append]; rfl)
  have double (t : String) : rawNames ("//" ++ t) = "" :: "" :: rawNames t := by
    rw [← single, ← single, ← String.append_assoc]
    rfl
  rcases Classical.em (parts = []) with rfl | hp
  · -- The text of the path has a last name that means nothing.
    rw [List.nil_append] at whole
    cases anchor with
    | none =>
      refine ⟨[], ?_, Or.inr ⟨".", Or.inr rfl, rfl⟩⟩
      rw [toText, below_eq, List.nil_append, joinNames_eq hne, whole]
    | top =>
      refine ⟨[""], ?_, Or.inr ⟨"", Or.inl rfl, rfl⟩⟩
      rw [toText, below_eq, List.nil_append, single, whole, List.singleton_append]
    | doubleTop =>
      refine ⟨["", ""], ?_, Or.inr ⟨"", Or.inl rfl, rfl⟩⟩
      rw [toText, below_eq, List.nil_append, double, whole]
      rfl
  · have alone := rawNames_intercalate rooted hp
    cases anchor with
    | none =>
      refine ⟨parts, ?_, Or.inl ?_⟩
      · rw [toText, below_eq, joinNames_eq (List.append_ne_nil_of_right_ne_nil parts hne), whole]
      · rw [toText, joinNames_eq hp, alone]
    | top =>
      refine ⟨"" :: parts, ?_, Or.inl ?_⟩
      · rw [toText, below_eq, single, whole, List.cons_append]
      · rw [toText, single, alone]
    | doubleTop =>
      refine ⟨"" :: "" :: parts, ?_, Or.inl ?_⟩
      · rw [toText, below_eq, double, whole, List.cons_append, List.cons_append]
      · rw [toText, double, alone]

theorem startPlace_below {root : PathText} (rooted : ∀ name ∈ root.parts, IsPart name)
    {names : List String} (named : ∀ name ∈ names, IsPart name) (cwd : Place) :
    startPlace cwd (root.below names).toText = startPlace cwd root.toText := by
  obtain ⟨anchor, parts⟩ := root
  cases anchor with
  | none =>
    have relative {names : List String} (named : ∀ name ∈ names, IsPart name) :
        startPlace cwd (joinNames names) = cwd :=
      if_neg (leadingSlashes_eq_zero_iff.1 (leadingSlashes_joinNames named))
    show startPlace cwd (joinNames (parts ++ names)) = startPlace cwd (joinNames parts)
    rw [relative rooted, relative (List.forall_mem_append.2 ⟨rooted, named⟩)]
  | top | doubleTop =>
    rw [startPlace, startPlace, toText, toText, below_eq, String.toList_append,
      String.toList_append]
    rfl

end PathText

end TagSearch
