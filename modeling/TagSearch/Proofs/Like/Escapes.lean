import TagSearch.Proofs.Like
import Mathlib

/-!
# Escaped texts

A text that is escaped matches itself and the texts that differ from it in the case of ASCII letters
only, whatever the escape character is: also if it is a wildcard, or stands in the text. It does not
matter whether the text is escaped in one go or one special character after the other, the escape
character first.

Patterns cannot tell U+FFFE and U+FFFF from U+FFFD. If the escape character is one of the three, the
other two take its role without being escaped, so the text must not hold them.

* `Like.escapeInTurn_eq_escape`: escaping one special character after the other.
* `Like.acceptsText_escape_iff`: an escaped text matches literally.
* `Like.acceptsPath_eq_acceptsText`: paths are matched as texts are.
* `Like.escaped_texts_match_literally`: every escape character, and every mode.
-/

namespace TagSearch.Like

variable {esc w : Char} {s : List Char} {special : List Char}

/-! ## One special character after the other -/

/-- A text with `new` in the place of every occurrence of a character. -/
def replaced (c : Char) (new s : List Char) : List Char :=
  s.flatMap fun d => if d = c then new else [d]

/-- A text that is escaped by replacements of single characters: of the escape character, and then
of the wildcards other than it. -/
def escapeInTurn (esc : Char) (s : List Char) : List Char :=
  (['%', '_'].filter (· != esc)).foldl (fun t w => replaced w [esc, w] t)
    (replaced esc [esc, esc] s)

/-- A text with the escape character in front of some special characters. -/
def marked (esc : Char) (special s : List Char) : List Char :=
  s.flatMap fun c => if c ∈ special then [esc, c] else [c]

theorem marked_congr {special' : List Char} (same : ∀ c, c ∈ special ↔ c ∈ special')
    (s : List Char) : marked esc special s = marked esc special' s := by
  simp only [marked, same]

/-- One more special character is marked by a replacement, which leaves alone what was put in. -/
theorem replaced_marked (apart : w ≠ esc) (fresh : w ∉ special) (s : List Char) :
    replaced w [esc, w] (marked esc special s) = marked esc (w :: special) s := by
  unfold replaced marked
  rw [List.flatMap_assoc]
  congr 1
  funext c
  by_cases known : c ∈ special
  · have other : c ≠ w := by
      rintro rfl
      exact fresh known
    simp [known, other, apart.symm]
  · by_cases here : c = w
    · subst here
      simp [known]
    · simp [known, here]

theorem foldl_replaced_marked {ws : List Char} (distinct : ws.Nodup) (apart : esc ∉ ws)
    (fresh : ∀ w ∈ ws, w ∉ special) (s : List Char) :
    ws.foldl (fun t w => replaced w [esc, w] t) (marked esc special s) =
      marked esc (ws.reverse ++ special) s := by
  induction ws generalizing special with
  | nil => rfl
  | cons w ws ih =>
    obtain ⟨once, distinct⟩ := List.nodup_cons.1 distinct
    rw [List.mem_cons, not_or] at apart
    have fresh' : ∀ v ∈ ws, v ∉ w :: special := by
      intro v hv
      rw [List.mem_cons, not_or]
      exact ⟨fun e => once (e ▸ hv), fresh v (List.mem_cons_of_mem _ hv)⟩
    rw [List.foldl_cons, replaced_marked (Ne.symm apart.1) (fresh w List.mem_cons_self),
      ih distinct apart.2 fresh', List.reverse_cons, List.append_assoc, List.singleton_append]

/-- **Special characters may be escaped one after the other**, if the escape character comes
first. -/
theorem escapeInTurn_eq_escape (esc : Char) (s : List Char) :
    escapeInTurn esc s = escape esc s := by
  have first : replaced esc [esc, esc] s = marked esc [esc] s := by
    unfold replaced marked
    congr 1
    funext c
    by_cases h : c = esc <;> simp [h]
  have once : escape esc s = marked esc [esc, '%', '_'] s := by
    unfold escape marked
    congr 1
    funext c
    simp [or_assoc]
  have distinct : (['%', '_'].filter (· != esc)).Nodup :=
    List.Nodup.sublist List.filter_sublist (by decide)
  rw [escapeInTurn, first, foldl_replaced_marked distinct (by simp) (by simp), once]
  refine marked_congr (fun c => ?_) s
  by_cases h : c = esc <;> simp [h, or_comm]

/-! ## Characters as they are read -/

@[simp]
theorem readable_readable (c : Char) : readable (readable c) = readable c := by
  unfold readable
  split
  · decide
  · rfl

/-- Nothing else is read as a character that is read as itself, unless it is what unreadable
characters are read as. -/
theorem readable_eq_iff {c d : Char} (plain : d ≠ '\uFFFD') (own : readable d = d) :
    readable c = d ↔ c = d := by
  constructor
  · unfold readable
    split
    · intro h
      exact absurd h.symm plain
    · exact id
  · rintro rfl
    exact own

theorem readable_percent {c : Char} : readable c = '%' ↔ c = '%' :=
  readable_eq_iff (by decide) rfl

theorem readable_underscore {c : Char} : readable c = '_' ↔ c = '_' :=
  readable_eq_iff (by decide) rfl

theorem readable_escapeChar {c : Char} : readable c = escapeChar ↔ c = escapeChar :=
  readable_eq_iff (by decide) rfl

theorem folded_map_readable (s : List Char) : folded (s.map readable) = folded s := by
  simp [folded]

theorem compared_eq {s : String} (h : '\x00' ∉ s.toList) : compared s = s.toList.map readable := by
  rw [compared, visible_eq_self h]

/-- The special characters of a text are special as they are read, and no others. -/
theorem map_readable_escape (clear : ∀ c ∈ s, readable c = readable esc → c = esc) :
    (escape esc s).map readable = escape (readable esc) (s.map readable) := by
  unfold escape
  rw [List.map_flatMap, List.flatMap_map]
  refine List.flatMap_congr fun c hc => ?_
  have same : readable c = readable esc ↔ c = esc := ⟨clear c hc, congrArg readable⟩
  simp only [same, readable_percent, readable_underscore]
  split <;> rfl

/-! ## Texts that are matched -/

/-- **An escaped text matches literally**, as texts are read. -/
theorem acceptsText_escape_iff {value text : String} (hesc : esc ≠ '\x00')
    (hv : '\x00' ∉ value.toList) (ht : '\x00' ∉ text.toList)
    (clear : ∀ c ∈ value.toList, readable c = readable esc → c = esc) :
    acceptsText esc (String.ofList (escape esc value.toList)) text = true ↔
      folded text.toList = folded value.toList := by
  have inside : '\x00' ∉ (String.ofList (escape esc value.toList)).toList := by
    rw [String.toList_ofList]
    exact not_mem_escape hesc.symm hv
  rw [acceptsText, compared_eq inside, compared_eq ht, String.toList_ofList,
    map_readable_escape clear, accepts_escape, folded_map_readable, folded_map_readable]

/-- A pattern whose escape character is read as nothing else matches texts as they are read. -/
theorem accepts_map_readable (plain : ∀ c, readable c = esc ↔ c = esc) (pattern text : List Char) :
    accepts esc (pattern.map readable) (text.map readable) = accepts esc pattern text := by
  have letter (q c : Char) : sameLetter (readable q) (readable c) = sameLetter q c := by
    simp [sameLetter]
  have escaped : readable esc = esc := (plain esc).2 rfl
  fun_induction accepts esc pattern text with
  | case1 text => simp [accepts]
  | case2 q pattern c text ih => simp [accepts, escaped, letter, ih]
  | case3 pattern text short =>
    rw [List.map_cons, escaped, accepts.eq_def]
    cases pattern with
    | nil => simp
    | cons q pattern =>
      cases text with
      | nil => simp
      | cons c text => exact absurd rfl (short q pattern c text rfl)
  | case4 pattern other ih =>
    rw [List.map_cons, readable_percent.2 rfl, accepts.eq_def]
    simpa [other] using ih
  | case5 pattern c text other ih₁ ih₂ =>
    rw [List.map_cons, readable_percent.2 rfl] at ih₂ ⊢
    rw [List.map_cons, accepts.eq_def]
    simpa [other, ih₂] using congrArg (· || _) ih₁
  | case6 p pattern other run =>
    rw [List.map_cons, accepts.eq_def]
    simp [plain, readable_percent, other, run]
  | case7 p pattern other run c text ih =>
    rw [List.map_cons, List.map_cons, accepts.eq_def]
    simp [plain, readable_percent, readable_underscore, other, run, letter, ih]

/-- **Paths are matched as texts are**, with a backslash as the escape character. -/
theorem acceptsPath_eq_acceptsText (pattern path : String) :
    acceptsPath pattern path = acceptsText escapeChar pattern path := by
  rw [acceptsText, readable_escapeChar.2 rfl, compared, compared,
    accepts_map_readable (fun _ => readable_escapeChar), acceptsPath]

/-! ## Every escape character, and every mode -/

/-- **Escaped texts match literally**, whatever character escapes them, and the wildcards of a mode
then leave open what stands before or behind them. The texts are compared as they are read, and if
the escape character is read as other characters are, the text must not hold those. -/
theorem escaped_texts_match_literally (value text : String) (hv : '\x00' ∉ value.toList)
    (ht : '\x00' ∉ text.toList) :
    (∀ esc, esc ≠ '\x00' →
      escapeInTurn esc value.toList = escape esc value.toList ∧
      ((∀ c ∈ value.toList, readable c = readable esc → c = esc) →
        (acceptsText esc (String.ofList (escape esc value.toList)) text = true ↔
          foldCase (readableText text) = foldCase (readableText value)))) ∧
    ∀ m : PathMatch, acceptsText escapeChar (m.pattern value) text = true ↔
      m.Matches (readableText value) (readableText text) := by
  constructor
  · intro esc hesc
    refine ⟨escapeInTurn_eq_escape esc _, fun clear => ?_⟩
    rw [foldCase_readableText, foldCase_readableText]
    exact acceptsText_escape_iff hesc hv ht clear
  · intro m
    rw [← acceptsPath_eq_acceptsText]
    exact acceptsPath_pattern_iff m hv ht

/-- A text that holds both wildcards, with one of them as the escape character. -/
theorem escaped_texts_match_literally_percent :
    escapeInTurn '%' "5%_a".toList = "5%%%_a".toList ∧
    acceptsText '%' "5%%%_a" "5%_A" = true ∧
    acceptsText '%' "5%%%_a" "5%xA" = false ∧
    acceptsText escapeChar (PathMatch.start.pattern "5%_a") "5%_A/x" = true := by
  obtain ⟨texts, -⟩ := escaped_texts_match_literally "5%_a" "5%_A" (by decide) (by decide)
  obtain ⟨others, -⟩ := escaped_texts_match_literally "5%_a" "5%xA" (by decide) (by decide)
  obtain ⟨-, paths⟩ := escaped_texts_match_literally "5%_a" "5%_A/x" (by decide) (by decide)
  obtain ⟨turns, same⟩ := texts '%' (by decide)
  obtain ⟨-, different⟩ := others '%' (by decide)
  have clear : ∀ c ∈ "5%_a".toList, readable c = readable '%' → c = '%' :=
    fun _ _ h => readable_percent.1 h
  refine ⟨turns.trans (by decide), (same clear).2 (by decide), ?_, (paths .start).2 ?_⟩
  · rw [← Bool.not_eq_true]
    exact (different clear).not.2 (by decide)
  · show foldCase (readableText "5%_a") <+: foldCase (readableText "5%_A/x")
    decide

/-- Texts that differ are not always told apart: a pattern of U+FFFE matches U+FFFF. And U+FFFE is
not literal if U+FFFD is the escape character: it takes the role of the character after it. -/
theorem escaped_texts_match_unread_characters :
    acceptsText '%' (String.ofList (escape '%' "\uFFFE".toList)) "\uFFFF" = true ∧
    acceptsText escapeChar (PathMatch.whole.pattern "\uFFFE") "\uFFFF" = true ∧
    foldCase "\uFFFF" ≠ foldCase "\uFFFE" ∧
    acceptsText '\uFFFD' (String.ofList (escape '\uFFFD' "\uFFFEa".toList)) "a" = true ∧
    foldCase (readableText "a") ≠ foldCase (readableText "\uFFFEa") :=
  ⟨by cbv, by cbv, by decide, by cbv, by decide⟩

end TagSearch.Like
