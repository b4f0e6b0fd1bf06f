import TagSearch.Proofs.Predicate.Reading

/-!
# Quoted phrases

A phrase stands between quotes in a query of the token table, with its own quotes doubled. However
many quotes it has, and wherever they are, the quote that ends it is the one that was written for
that, so that nothing of it is taken for a part of the query.

* `Text.Unquotes` is the rule by which a quoted text is read, `Text.unquotes_iff` tells that
  `Text.unquote` follows it, and `Text.unquote_eq_some_iff` of which texts something is read.
* `queryTokens?` cuts a query into its tokens; `queryTokens?_quoted`: a quoted phrase is one token.
* `phraseOfQuery?_eq_some_iff`: a query asks for a token only if it was written for that one.
* `quoted_phrases_are_read_back`: all of it, for any phrase and what stands behind it.
-/

namespace TagSearch

namespace Text

variable {q : Char} {s text rest : List Char}

/-- How a text that follows an opening quote is read, and what is left of it: a doubled quote stands
for one, and the first quote that is not doubled ends the text. -/
inductive Unquotes (q : Char) : (s text rest : List Char) → Prop
  | ends {rest : List Char} (single : rest.head? ≠ some q) : Unquotes q (q :: rest) [] rest
  | quote {s text rest : List Char} (h : Unquotes q s text rest) :
    Unquotes q (q :: q :: s) (q :: text) rest
  | other {c : Char} {s text rest : List Char} (plain : c ≠ q) (h : Unquotes q s text rest) :
    Unquotes q (c :: s) (c :: text) rest

/-- A text is read from its quoted form, and from nothing else. -/
theorem unquotes_iff_double :
    Unquotes q s text rest ↔ s = double q text ++ q :: rest ∧ rest.head? ≠ some q := by
  constructor
  · intro h
    induction h with
    | ends single => exact ⟨rfl, single⟩
    | quote _ ih =>
      obtain ⟨rfl, single⟩ := ih
      exact ⟨by rw [double, if_pos rfl]; rfl, single⟩
    | other plain _ ih =>
      obtain ⟨rfl, single⟩ := ih
      exact ⟨by rw [double, if_neg plain]; rfl, single⟩
  · rintro ⟨rfl, single⟩
    induction text with
    | nil => exact .ends single
    | cons c text ih =>
      by_cases same : c = q
      · subst same
        rw [double, if_pos rfl]
        exact .quote ih
      · rw [double, if_neg same]
        exact .other same ih

theorem unquotes_of_unquote (h : unquote q s = some (text, rest)) : Unquotes q s text rest := by
  fun_induction unquote q s generalizing text with
  | case1 => cases h
  | case2 =>
    obtain ⟨rfl, rfl⟩ := Prod.mk.inj (Option.some.inj h)
    exact .ends (by simp)
  | case3 => cases h
  | case4 r ih =>
    obtain ⟨⟨t, left⟩, inside, e⟩ := Option.map_eq_some_iff.1 h
    obtain ⟨rfl, rfl⟩ := Prod.mk.inj e
    exact .quote (ih inside)
  | case5 d r apart =>
    obtain ⟨rfl, rfl⟩ := Prod.mk.inj (Option.some.inj h)
    exact .ends fun e => apart (Option.some.inj e)
  | case6 c d r plain ih =>
    obtain ⟨⟨t, left⟩, inside, e⟩ := Option.map_eq_some_iff.1 h
    obtain ⟨rfl, rfl⟩ := Prod.mk.inj e
    exact .other plain (ih inside)

/-- **What is read of a quoted text**, and of which texts something is. -/
theorem unquote_eq_some_iff :
    unquote q s = some (text, rest) ↔ s = double q text ++ q :: rest ∧ rest.head? ≠ some q := by
  constructor
  · exact fun h => unquotes_iff_double.1 (unquotes_of_unquote h)
  · rintro ⟨rfl, single⟩
    exact unquote_double text single

theorem unquotes_iff : Unquotes q s text rest ↔ unquote q s = some (text, rest) := by
  rw [unquotes_iff_double, unquote_eq_some_iff]

/-- How a text between quotes is read: behind the opening quote, by the rule. -/
def ReadsQuoted (q : Char) (s text rest : List Char) : Prop :=
  ∃ inside, s = q :: inside ∧ Unquotes q inside text rest

theorem readsQuoted_iff : ReadsQuoted q (q :: s) text rest ↔ unquote q s = some (text, rest) := by
  rw [← unquotes_iff]
  constructor
  · rintro ⟨inside, e, h⟩
    rwa [← (List.cons.inj e).2] at h
  · exact fun h => ⟨s, rfl, h⟩

theorem double_injective (q : Char) : Function.Injective (double q) := by
  intro s t same
  have none : ([] : List Char).head? ≠ some q := by simp
  have read := unquote_double s none
  rw [same, unquote_double t none] at read
  exact (congrArg Prod.fst (Option.some.inj read)).symm

end Text

/-! ## Tokens of a query -/

/-- A token of a query of the token table. -/
inductive QueryToken where
  /-- A word without quotes: a column, one of the operators `AND`, `OR` and `NOT`, or a phrase. -/
  | word (text : String)
  /-- A phrase between quotes, without them and with its quotes no longer doubled. -/
  | phrase (text : String)
  /-- An operator or bracket of one character. -/
  | sign (c : Char)
  deriving DecidableEq, Repr

/-- The characters of words without quotes: letters, digits, the underscore, the character U+001A
and all that are not ASCII. -/
def isBareChar (c : Char) : Bool :=
  c.isAlphanum || c == '_' || c == '\x1a' || decide (128 ≤ c.toNat)

/-- The operators and brackets of one character. -/
def querySigns : List Char := ['(', ')', '\x7b', '\x7d', ':', ',', '+', '*', '-', '^']

/-- The tokens of a query. Spaces, tabs and line breaks separate them and are dropped. -/
def queryTokens? : List Char → Option (List QueryToken)
  | [] => some []
  | c :: rest =>
    if c ∈ [' ', '\t', '\n', '\r'] then queryTokens? rest
    else if c ∈ querySigns then (queryTokens? rest).map (.sign c :: ·)
    else if c = '"' then
      match _h : Text.unquote '"' rest with
      | some (text, rest) => (queryTokens? rest).map (.phrase (String.ofList text) :: ·)
      | none => none
    else if isBareChar c then
      (queryTokens? (rest.dropWhile isBareChar)).map
        (.word (String.ofList (c :: rest.takeWhile isBareChar)) :: ·)
    else none
termination_by query => query.length
decreasing_by
  · simp
  · simp
  · have := Text.length_lt_of_unquote _h
    simp only [List.length_cons]
    omega
  · exact Nat.lt_succ_of_le (List.dropWhile_sublist _).length_le

theorem queryTokens?_sign {c : Char} (h : c ∈ querySigns) (rest : List Char) :
    queryTokens? (c :: rest) = (queryTokens? rest).map (.sign c :: ·) := by
  have apart : ∀ c ∈ querySigns, c ∉ [' ', '\t', '\n', '\r'] := by simp [querySigns]
  rw [queryTokens?, if_neg (apart c h), if_pos h]

theorem queryTokens?_quote {s text rest : List Char} (h : Text.unquote '"' s = some (text, rest)) :
    queryTokens? ('"' :: s) = (queryTokens? rest).map (.phrase (String.ofList text) :: ·) := by
  rw [queryTokens?, if_neg (by decide), if_neg (by decide), if_pos rfl]
  split
  · next found =>
      rw [h] at found
      obtain ⟨rfl, rfl⟩ := Prod.mk.inj (Option.some.inj found)
      rfl
  · next lost =>
      rw [h] at lost
      cases lost

theorem queryTokens?_word {word rest : List Char} (full : word ≠ [])
    (bare : ∀ c ∈ word, isBareChar c = true) (apart : ∀ c ∈ rest.head?, isBareChar c = false) :
    queryTokens? (word ++ rest) =
      (queryTokens? rest).map (.word (String.ofList word) :: ·) := by
  obtain ⟨c, word, rfl⟩ := List.exists_cons_of_ne_nil full
  obtain ⟨first, bare⟩ := List.forall_mem_cons.1 bare
  -- A character of words is none of those that the branches before ask for.
  have other (s : List Char) (plain : s.all (!isBareChar ·) = true) : c ∉ s := fun mem => by
    simpa [first] using List.all_eq_true.1 plain c mem
  have unquoted : c ≠ '"' := fun e => other ['"'] (by decide) (List.mem_singleton.2 e)
  rw [List.cons_append, queryTokens?, if_neg (other _ (by decide)), if_neg (other _ (by decide)),
    if_neg unquoted, if_pos first, takeWhile_append_of_head? bare apart,
    dropWhile_append_of_head? bare apart]

/-- **A quoted phrase is one token**, whatever it holds. -/
theorem queryTokens?_quoted (value : String) {rest : List Char} (behind : rest.head? ≠ some '"') :
    queryTokens? ('"' :: (Text.double '"' value.toList ++ '"' :: rest)) =
      (queryTokens? rest).map (.phrase value :: ·) := by
  rw [queryTokens?_quote (Text.unquote_double value.toList behind), String.ofList_toList]

/-- A query for a token consists of the column, a colon and one phrase. -/
theorem queryTokens?_tokenQuery (token : String) :
    queryTokens? (tokenQuery token).toList =
      some [.word tokenColumn, .sign ':', .phrase token] := by
  have column : ∀ c ∈ tokenColumn.toList, isBareChar c = true := List.all_eq_true.1 (by decide)
  have apart : ∀ (rest : List Char), ∀ c ∈ (':' :: rest).head?, isBareChar c = false := by
    rintro rest _ ⟨⟩
    decide
  rw [Condition.toList_tokenQuery, List.append_assoc, List.cons_append, List.singleton_append,
    queryTokens?_word (by decide) column (apart _), queryTokens?_sign (by decide),
    queryTokens?_quoted token (by decide), queryTokens?, String.ofList_toList]
  rfl

/-- **A query asks for a token only if it was written for that one.** -/
theorem phraseOfQuery?_eq_some_iff {query : List Char} {token : String} :
    phraseOfQuery? query = some token ↔ query = (tokenQuery token).toList := by
  constructor
  · intro h
    rw [phraseOfQuery?] at h
    split at h
    · rename_i lead
      split at h
      · rename_i phrase inside
        obtain ⟨written, -⟩ := Text.unquote_eq_some_iff.1 inside
        have whole := List.take_append_drop (tokenColumn.toList ++ [':', '"']).length query
        rw [lead, written] at whole
        rw [← whole, Condition.toList_tokenQuery, ← Option.some.inj h, String.toList_ofList]
      · cases h
    · cases h
  · rintro rfl
    exact Condition.phraseOfQuery?_tokenQuery token

theorem escapePhrase_injective : Function.Injective escapePhrase := by
  intro s t same
  have inside : Text.double '"' s.toList = Text.double '"' t.toList := by
    simpa [escapePhrase] using congrArg String.toList same
  exact String.toList_inj.1 (Text.double_injective '"' inside)

/-- **Quoted phrases are read back.** By the rule for quoted texts, what is read of a phrase between
quotes is the phrase, and what is left is what stands behind it, whatever quotes there are in the
phrase. So a phrase is one token of a query and adds no other, the query for a tag consists of the
column, a colon and one phrase, a query asks for a token only if it was written for that one, and
two phrases are written alike only if they are the same. -/
theorem quoted_phrases_are_read_back (value rest : String) (behind : rest.toList.head? ≠ some '"') :
    (∀ text left,
      Text.ReadsQuoted '"' ("\"" ++ escapePhrase value ++ "\"" ++ rest).toList text left ↔
        text = value.toList ∧ left = rest.toList) ∧
    queryTokens? ("\"" ++ escapePhrase value ++ "\"" ++ rest).toList =
      (queryTokens? rest.toList).map (.phrase value :: ·) ∧
    queryTokens? (tagQuery value).toList =
      some [.word tokenColumn, .sign ':', .phrase (tagToken value)] ∧
    (∀ query, phraseOfQuery? query = some value ↔ query = (tokenQuery value).toList) ∧
    ∀ other, escapePhrase value = escapePhrase other ↔ value = other := by
  have written : ("\"" ++ escapePhrase value ++ "\"" ++ rest).toList =
      '"' :: (Text.double '"' value.toList ++ '"' :: rest.toList) := by
    simp [escapePhrase]
  refine ⟨fun text left => ?_, ?_, queryTokens?_tokenQuery _, fun _ => phraseOfQuery?_eq_some_iff,
    fun _ => escapePhrase_injective.eq_iff⟩
  · rw [written, Text.readsQuoted_iff, Text.unquote_double value.toList behind]
    simp [eq_comm]
  · rw [written, queryTokens?_quoted value behind]

/-- Two quotes at the start of a phrase, and one right before the quote that ends it. -/
theorem quoted_phrases_are_read_back_quotes :
    " AND b".toList.head? ≠ some '"' ∧
    Text.ReadsQuoted '"' "\"\"\"\"\" OR x:\"\"\" AND b".toList "\"\" OR x:\"".toList
      " AND b".toList ∧
    queryTokens? "\"\"\"\"\" OR x:\"\"\" AND b".toList =
      some [.phrase "\"\" OR x:\"", .word "AND", .word "b"] := by
  have behind : " AND b".toList.head? ≠ some '"' := by decide
  have read := quoted_phrases_are_read_back "\"\" OR x:\"" " AND b" behind
  have written : "\"" ++ escapePhrase "\"\" OR x:\"" ++ "\"" ++ " AND b" =
      "\"\"\"\"\" OR x:\"\"\" AND b" := by cbv
  have next : queryTokens? " AND b".toList = some [.word "AND", .word "b"] := by cbv
  rw [written, next] at read
  exact ⟨behind, (read.1 _ _).2 ⟨rfl, rfl⟩, read.2.1⟩

end TagSearch
