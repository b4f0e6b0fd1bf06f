import TagSearch.Proofs.Lists
import TagSearch.Query.Layout
import TagSearch.Query.Parse
import Mathlib

/-!
# Atoms and their terms

The term that is read from an atom is the term that the atom is a layout of. A run that starts with
an identifier and a colon is always cut there, and no other run is.

* `IsAtomText` are the texts that are cut as one atom.
* `Atom.ofRun_of_isKey` and `Atom.ofRun_of_keyless`: what is cut from a run.
* `term?_ofRun_eq_ok_iff`: a term is read from a run if the run is a layout of it.
* `errorOf?_term?_ofRun`: the error of a run that no term is read from.
-/

namespace TagSearch

/-! ## Characters -/

theorem inRun_iff {c : Char} : inRun c = true ↔ Text.isBlank c = false ∧ c ≠ '|' := by
  simp [inRun]

theorem toNat_of_isAlphanum {c : Char} (h : c.isAlphanum = true) :
    48 ≤ c.toNat ∧ c.toNat ≤ 57 ∨ 65 ≤ c.toNat ∧ c.toNat ≤ 90 ∨ 97 ≤ c.toNat ∧ c.toNat ≤ 122 := by
  simp only [Char.isAlphanum, Char.isAlpha, Char.isUpper, Char.isLower, Char.isDigit,
    Bool.or_eq_true, Bool.and_eq_true, decide_eq_true_eq, ge_iff_le, UInt32.le_iff_toNat_le] at h
  have value : c.toNat = c.val.toNat := rfl
  have upper : 'A'.val.toNat = 65 ∧ 'Z'.val.toNat = 90 := ⟨rfl, rfl⟩
  have lower : 'a'.val.toNat = 97 ∧ 'z'.val.toNat = 122 := ⟨rfl, rfl⟩
  have digit : '0'.val.toNat = 48 ∧ '9'.val.toNat = 57 := ⟨rfl, rfl⟩
  omega

theorem inRun_of_isAlphanum {c : Char} (h : c.isAlphanum = true) : inRun c = true := by
  have range := toNat_of_isAlphanum h
  rw [inRun_iff]
  constructor
  · simp only [Text.isBlank, Bool.or_eq_false_iff, Bool.and_eq_false_iff, decide_eq_false_iff_not,
      beq_eq_false_iff_ne]
    omega
  · rintro rfl
    revert range
    decide

theorem isAlpha_of_toLower {c : Char} (h : c.toLower.isAlpha = true) : c.isAlpha = true := by
  by_cases upper : c.isUpper = true
  · rw [Char.isAlpha, upper, Bool.true_or]
  · have same : c.toLower = c := by
      rw [Char.toLower, dif_neg]
      simpa [Char.isUpper] using upper
    rwa [same] at h

theorem isAlphanum_of_isAlpha {c : Char} (h : c.isAlpha = true) : c.isAlphanum = true := by
  rw [Char.isAlphanum, h, Bool.true_or]

/-! ## Runs with and without a key -/

theorem isKeyChar_of_isKey {key : List Char} (h : IsKey key) : ∀ c ∈ key, isKeyChar c = true := by
  obtain ⟨c, rest, rfl, hc, hrest⟩ := h
  intro d hd
  rw [isKeyChar, Bool.or_eq_true, beq_iff_eq]
  rcases List.mem_cons.1 hd with rfl | hd
  · exact Or.inl (isAlphanum_of_isAlpha hc)
  · exact hrest d hd

theorem Atom.ofRun_of_isKey {key : List Char} (h : IsKey key) (value : List Char) :
    ofRun (key ++ ':' :: value) = .keyed (String.ofList key) (String.ofList value) := by
  have chars := isKeyChar_of_isKey h
  have stop : ∀ c ∈ (':' :: value).head?, isKeyChar c = false := by
    intro c hc
    obtain rfl := Option.some.inj hc
    decide
  obtain ⟨c, rest, rfl, hc, -⟩ := h
  rw [ofRun, takeWhile_append_of_head? chars stop, dropWhile_append_of_head? chars stop]
  exact if_pos hc

theorem Atom.ofRun_of_keyless {run : List Char} (h : ¬ StartsWithKey run) :
    ofRun run = .word (String.ofList run) := by
  rw [ofRun]
  split
  · next c key value hk hv =>
      refine if_neg fun hc => h ⟨c :: key, value, ⟨c, key, rfl, hc, fun d hd => ?_⟩, ?_⟩
      · have mem : d ∈ run.takeWhile isKeyChar := by rw [hk]; exact List.mem_cons_of_mem _ hd
        simpa [isKeyChar] using List.mem_takeWhile_imp mem
      · rw [← hk, ← hv, List.takeWhile_append_dropWhile]
  · rfl

/-- The key of a pattern, in letters of either case, is an identifier. -/
theorem isKey_of_lower {key : List Char}
    (h : key.map Char.toLower = ['i', 'n', 'p', 'a', 't', 'h']) : IsKey key := by
  have letters : ∀ c ∈ key, c.isAlpha = true := by
    intro c hc
    have mem := List.mem_map_of_mem (f := Char.toLower) hc
    rw [h] at mem
    have all : ['i', 'n', 'p', 'a', 't', 'h'].all Char.isAlpha = true := by decide
    exact isAlpha_of_toLower (List.all_eq_true.1 all _ mem)
  cases key with
  | nil => cases h
  | cons c rest =>
    refine ⟨c, rest, rfl, letters c List.mem_cons_self, fun d hd => Or.inl ?_⟩
    exact isAlphanum_of_isAlpha (letters d (List.mem_cons_of_mem _ hd))

/-! ## Atoms -/

/-- A text that is cut as one atom. -/
structure IsAtomText (s : List Char) : Prop where
  run : IsRun s
  ne : s ≠ []
  plain : s.head? ≠ some '-'

theorem isRun_of_isKey {key : List Char} (h : IsKey key) : IsRun key := by
  obtain ⟨c, rest, rfl, hc, hrest⟩ := h
  intro d hd
  rw [← inRun_iff]
  rcases List.mem_cons.1 hd with rfl | hd
  · exact inRun_of_isAlphanum (isAlphanum_of_isAlpha hc)
  · rcases hrest d hd with hd | rfl
    · exact inRun_of_isAlphanum hd
    · decide

theorem AtomLayout.isAtomText {t : Term} {s : List Char} (h : AtomLayout t s) : IsAtomText s := by
  cases h with
  | tag run ne plain _ => exact ⟨run, ne, plain⟩
  | @inPath key pattern named run ne =>
    have isKey := isKey_of_lower named
    refine ⟨fun c hc => ?_, by simp, ?_⟩
    · rcases List.mem_append.1 hc with hc | hc
      · exact isRun_of_isKey isKey c hc
      · rcases List.mem_cons.1 hc with rfl | hc
        · exact inRun_iff.1 (by decide)
        · exact run c hc
    · obtain ⟨c, rest, rfl, hc, -⟩ := isKey
      rintro e
      obtain rfl := Option.some.inj e
      exact absurd hc (by decide)

theorem isBlankText_eq_false {s : List Char} (run : IsRun s) (ne : s ≠ []) :
    Text.isBlankText (String.ofList s) = false := by
  obtain ⟨c, rest, rfl⟩ := List.exists_cons_of_ne_nil ne
  rw [Text.isBlankText, String.toList_ofList, List.all_cons, (run c List.mem_cons_self).1,
    Bool.false_and]

theorem toLower_ofList_eq_pathKey_iff {key : List Char} :
    (String.ofList key).toLower = pathKey ↔
      key.map Char.toLower = ['i', 'n', 'p', 'a', 't', 'h'] := by
  rw [String.toLower, String.map_eq_internal, String.toList_ofList, ← String.toList_inj,
    String.toList_ofList]
  rfl

theorem check_ofList (sort : String → Term) {s : List Char} (run : IsRun s) (ne : s ≠ [])
    (text : (sort (String.ofList s)).text = String.ofList s) :
    (sort (String.ofList s)).check.mapError QueryError.blankTerm =
      .ok (sort (String.ofList s)) := by
  rw [Term.check, text, isBlankText_eq_false run ne]
  rfl

theorem atomLayout_keyed_iff {key value : List Char} (isKey : IsKey key) (run : IsRun value)
    {t : Term} : AtomLayout t (key ++ ':' :: value) ↔
      key.map Char.toLower = ['i', 'n', 'p', 'a', 't', 'h'] ∧ value ≠ [] ∧
        t = .inPath (String.ofList value) := by
  constructor
  · generalize hs : key ++ ':' :: value = s
    intro h
    cases h with
    | tag _ _ _ keyless => exact absurd ⟨key, value, isKey, hs.symm⟩ keyless
    | inPath named _ ne =>
      -- A run is cut in one way only.
      have cut := Atom.ofRun_of_isKey isKey value
      rw [hs, Atom.ofRun_of_isKey (isKey_of_lower named)] at cut
      obtain ⟨hk, hv⟩ := Atom.keyed.inj cut
      obtain rfl := String.ofList_injective hk
      obtain rfl := String.ofList_injective hv
      exact ⟨named, ne, rfl⟩
  · rintro ⟨named, ne, rfl⟩
    exact .inPath named run ne

theorem atomLayout_keyless_iff {s : List Char} (h : IsAtomText s) (keyless : ¬ StartsWithKey s)
    {t : Term} : AtomLayout t s ↔ t = .tag (String.ofList s) := by
  constructor
  · rintro (_ | ⟨named, _, _⟩)
    · rfl
    · exact absurd ⟨_, _, isKey_of_lower named, rfl⟩ keyless
  · rintro rfl
    exact .tag h.run h.ne h.plain keyless

/-- **A term is read from a run if the run is a layout of it.** -/
theorem term?_ofRun_eq_ok_iff {negated : Bool} {n : Nat} {s : List Char} (h : IsAtomText s)
    {t : Term} : (⟨negated, n, Atom.ofRun s⟩ : Literal).term? = .ok t ↔ AtomLayout t s := by
  by_cases keyed : StartsWithKey s
  · obtain ⟨key, value, isKey, rfl⟩ := keyed
    have run : IsRun value := fun c hc => h.run c (by simp [hc])
    rw [atomLayout_keyed_iff isKey run, Atom.ofRun_of_isKey isKey, Literal.term?]
    dsimp only
    rw [← toLower_ofList_eq_pathKey_iff]
    by_cases named : (String.ofList key).toLower = pathKey
    · rw [if_neg (not_not.2 named)]
      by_cases empty : value = []
      · simp [empty]
      · rw [if_neg (by simpa using empty), check_ofList Term.inPath run empty rfl]
        simp [named, empty, eq_comm]
    · rw [if_pos named]
      simp [named]
  · rw [atomLayout_keyless_iff h keyed, Atom.ofRun_of_keyless keyed, Literal.term?]
    dsimp only
    rw [check_ofList Term.tag h.run h.ne rfl, Except.ok.injEq, eq_comm]

/-- The error of an atom that starts at a place, if its key is bad. -/
def Atom.error? (n : Nat) : Atom → Option QueryError
  | .word _ => none
  | .keyed key value =>
    if key.toLower ≠ pathKey then some (.unknownKey n key)
    else if value = "" then some (.malformed (n + key.length + 1) (.missingValue key))
    else none

/-- **The error of a literal is that of its atom's key**, since no run is blank. -/
theorem errorOf?_term?_ofRun {negated : Bool} {n : Nat} {s : List Char} (h : IsAtomText s) :
    errorOf? (⟨negated, n, Atom.ofRun s⟩ : Literal).term? = (Atom.ofRun s).error? n := by
  by_cases keyed : StartsWithKey s
  · obtain ⟨key, value, isKey, rfl⟩ := keyed
    have run : IsRun value := fun c hc => h.run c (by simp [hc])
    rw [Atom.ofRun_of_isKey isKey, Literal.term?, Atom.error?]
    dsimp only
    by_cases named : (String.ofList key).toLower = pathKey
    · rw [if_neg (not_not.2 named), if_neg (not_not.2 named)]
      by_cases empty : value = []
      · simp [empty, errorOf?]
      · rw [if_neg (by simpa using empty), if_neg (by simpa using empty),
          check_ofList Term.inPath run empty rfl]
        rfl
    · rw [if_pos named, if_pos named]
      rfl
  · rw [Atom.ofRun_of_keyless keyed, Literal.term?]
    dsimp only
    rw [check_ofList Term.tag h.run h.ne rfl]
    rfl

theorem Atom.error?_ne_blankTerm (a : Atom) {n : Nat} {t : Term} :
    a.error? n ≠ some (.blankTerm t) := by
  cases a with
  | word text => nofun
  | keyed key value =>
    rw [error?]
    split
    · nofun
    · split <;> nofun

/-- No run is a term of blank text. -/
theorem term?_ofRun_ne_blankTerm {negated : Bool} {n : Nat} {s : List Char} (h : IsAtomText s)
    {t : Term} : (⟨negated, n, Atom.ofRun s⟩ : Literal).term? ≠ .error (.blankTerm t) := by
  intro e
  have bad := errorOf?_eq_some_iff.2 e
  rw [errorOf?_term?_ofRun h] at bad
  exact (Atom.ofRun s).error?_ne_blankTerm bad

end TagSearch
