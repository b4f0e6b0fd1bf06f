import TagSearch.Proofs.Predicate.Reading
import TagSearch.Proofs.Text.TagToken
import Mathlib.Algebra.Group.Even

/-!
# Queries for tags

A query for a tag asks for its token, and a cell answers it if it was stored for that tag: the
tokens of two tags are equal only if the tags are, and no quote, letter or separator of a tag gets
into its token. The empty tag is the exception. It has an empty cell, and a query for nothing finds
nothing.

* `Answers` tells whether a cell answers a query, `Catalog.answers_tagQuery_iff` that a query for a
  tag finds the rows whose cell does.
* `ofHex?_tagToken`: a tag is read back from its token.
* `answers_storedCell_iff`: a cell answers the query for the tag that it was stored for.
* `tag_tokens_are_exact`: all of it, for any two tags.
-/

namespace TagSearch

/-! ## Digits -/

namespace Text

/-- The digits of tokens. -/
def hexDigits : List Char := "0123456789abcdef".toList

theorem hexDigit_mem {n : Nat} (h : n < 16) : hexDigit 'a' n ∈ hexDigits := by
  have all : ∀ n < 16, hexDigit 'a' n ∈ hexDigits := by decide
  exact all n h

theorem mem_hexDigits_of_mem_hex {s : String} {c : Char} (h : c ∈ (hex s).toList) :
    c ∈ hexDigits := by
  rw [hex, String.toList_ofList, List.mem_flatMap] at h
  obtain ⟨b, -, hc⟩ := h
  obtain ⟨hi, lo⟩ := halves_lt b
  simp only [hexByte, List.mem_cons, List.not_mem_nil, or_false] at hc
  obtain rfl | rfl := hc
  · exact hexDigit_mem hi
  · exact hexDigit_mem lo

theorem length_hex (s : String) : (hex s).toList.length = 2 * (bytes s).length := by
  rw [hex, String.toList_ofList]
  induction bytes s with
  | nil => rfl
  | cons b bs ih =>
    rw [List.flatMap_cons, List.length_append, ih]
    simp only [hexByte, List.length_cons, List.length_nil]
    omega

/-- The bytes of a text are those of its characters, one after the other. -/
theorem bytes_eq_flatMap (s : String) : bytes s = s.toList.flatMap String.utf8EncodeChar := by
  have chars : s.toUTF8 = (s.toList.flatMap String.utf8EncodeChar).toByteArray := by
    conv_lhs => rw [← String.ofList_toList (s := s)]
    rfl
  rw [bytes, chars, List.data_toByteArray]

/-- A text is read back from its digits. -/
theorem ofHex?_hex (s : String) : ofHex? (hex s) = some s := by
  rw [ofHex?, bytesOfHex_hex, Option.bind_some]
  show String.fromUTF8? s.toUTF8 = some s
  unfold String.fromUTF8?
  rw [String.toUTF8_eq_toByteArray, dif_pos s.isValidUTF8]
  rfl

theorem double_eq_self {q : Char} {s : List Char} (h : q ∉ s) : double q s = s := by
  induction s with
  | nil => rfl
  | cons c s ih =>
    rw [List.mem_cons, not_or] at h
    rw [double, if_neg (Ne.symm h.1), ih h.2]

end Text

/-- A token consists of the digits of each byte of each character. -/
theorem toList_tagToken (name : String) :
    (tagToken name).toList =
      (name.toList.flatMap String.utf8EncodeChar).flatMap (Text.hexByte 'a') := by
  rw [tagToken, Text.hex, String.toList_ofList, Text.bytes_eq_flatMap]

/-- A tag is read back from its token. -/
theorem ofHex?_tagToken (name : String) : Text.ofHex? (tagToken name) = some name :=
  Text.ofHex?_hex name

/-- No quote stands in a token. -/
theorem escapePhrase_tagToken (name : String) : escapePhrase (tagToken name) = tagToken name := by
  have plain : '"' ∉ (tagToken name).toList := by
    intro h
    exact absurd (Text.mem_hexDigits_of_mem_hex h) (by decide)
  rw [escapePhrase, Text.double_eq_self plain, String.ofList_toList]

/-! ## Cells that answer a query -/

/-- Whether a cell answers a query: the tokens of the phrase that the query asks for, of which there
is at least one, stand next to each other in the cell. -/
def Answers (cell query : String) : Prop :=
  ∃ phrase ∈ phraseOfQuery? query.toList,
    cellTokens phrase ≠ [] ∧ cellTokens phrase <:+: cellTokens cell

instance (cell query : String) : Decidable (Answers cell query) :=
  inferInstanceAs (Decidable (∃ phrase ∈ phraseOfQuery? query.toList, _))

theorem ofList_reverse_ne_empty {run : List Char} (h : ¬ run.isEmpty = true) :
    "" ≠ String.ofList run.reverse := by
  intro e
  have chars : run.reverse = [] := by
    rw [← String.toList_ofList (l := run.reverse), ← e]
    rfl
  exact h (List.isEmpty_iff.2 (List.reverse_eq_nil_iff.1 chars))

/-- No token is empty. -/
theorem empty_not_mem_tokensFrom (run s : List Char) : "" ∉ tokensFrom run s := by
  fun_induction tokensFrom run s with
  | case1 => exact List.not_mem_nil
  | case2 run full =>
    rw [List.mem_singleton]
    exact ofList_reverse_ne_empty full
  | case3 _ _ _ _ _ ih | case4 _ _ _ _ ih | case5 _ _ _ _ _ ih => exact ih
  | case6 run _ _ _ full ih =>
    rw [List.mem_cons, not_or]
    exact ⟨ofList_reverse_ne_empty full, ih⟩

theorem cellTokens_tagToken_empty : cellTokens (tagToken "") = [] := by
  decide

/-- A cell answers the query for a tag if the token of the tag is among its tokens. -/
theorem answers_iff_mem_cellTokens {cell name : String} :
    Answers cell (tagQuery name) ↔ tagToken name ∈ cellTokens cell := by
  unfold Answers tagQuery
  simp only [Condition.phraseOfQuery?_tokenQuery, Option.mem_some_iff, exists_eq_left']
  by_cases h : name = ""
  · subst h
    have none : tagToken "" ∉ cellTokens cell := empty_not_mem_tokensFrom [] _
    simp [cellTokens_tagToken_empty, none]
  · rw [cellTokens_tagToken h]
    simp [List.singleton_infix_iff]

/-- A query for a tag finds the files of the rows whose cells answer it. -/
theorem Catalog.answers_tagQuery_iff {c : Catalog} {name : String} {id : Int} :
    c.answers (tagQuery name) id = true ↔
      ∃ cell, (cell, id) ∈ c.tokens ∧ Answers cell (tagQuery name) := by
  simp only [answers_iff_mem_cellTokens]
  rw [tagQuery, Condition.answers_tokenQuery, hasToken, List.any_eq_true]
  simp

/-- **A cell answers the query for the tag that it was stored for**, and for no other tag. -/
theorem answers_storedCell_iff {m n : String} :
    Answers (storedCell m) (tagQuery n) ↔ m = n ∧ m ≠ "" := by
  rw [answers_iff_mem_cellTokens, storedCell_eq_tagToken]
  by_cases h : m = ""
  · subst h
    simp [cellTokens_tagToken_empty]
  · rw [cellTokens_tagToken h, List.mem_singleton, tagToken_inj, eq_comm, and_iff_left h]

example : Answers (tagToken "OR") (tagQuery "OR") ∧ ¬ Answers (tagToken "OR x") (tagQuery "OR") := by
  decide

/-- In a table that was refreshed, a query for a tag finds the files that carry it. -/
theorem Catalog.answers_refreshTokens_iff {c : Catalog} {name : String} {id : Int} :
    c.refreshTokens.answers (tagQuery name) id = true ↔ (id, name) ∈ c.tags ∧ name ≠ "" := by
  rw [answers_tagQuery_iff]
  constructor
  · rintro ⟨cell, row, found⟩
    obtain ⟨⟨id, m⟩, tagged, e⟩ := List.mem_map.1 row
    obtain ⟨rfl, rfl⟩ := Prod.mk.inj e
    obtain ⟨rfl, ne⟩ := answers_storedCell_iff.1 found
    exact ⟨tagged, ne⟩
  · rintro ⟨tagged, ne⟩
    exact ⟨storedCell name, List.mem_map.2 ⟨(id, name), tagged, rfl⟩,
      answers_storedCell_iff.2 ⟨rfl, ne⟩⟩

/-- **Tokens of tags are exact.** Two tags have the same token only if they are the same. A token
consists of pairs of digits, one for each byte, from which the tag is read back; it needs no escape
in a query, and it is what is stored. So a row answers the query for the tag that it was stored for
and for no other, and a search in a refreshed table finds the files that carry the tag, unless the
tag is empty. -/
theorem tag_tokens_are_exact (m n : String) :
    (tagToken m = tagToken n ↔ m = n) ∧
    (tagToken m).toList =
      (m.toList.flatMap String.utf8EncodeChar).flatMap (Text.hexByte 'a') ∧
    (∀ c ∈ (tagToken m).toList, c ∈ Text.hexDigits) ∧
    Even (tagToken m).toList.length ∧
    Text.ofHex? (tagToken m) = some m ∧
    escapePhrase (tagToken m) = tagToken m ∧
    storedCell m = tagToken m ∧
    (Answers (storedCell m) (tagQuery n) ↔ m = n ∧ m ≠ "") ∧
    ∀ (c : Catalog) (id : Int),
      c.refreshTokens.answers (tagQuery n) id = true ↔ (id, n) ∈ c.tags ∧ n ≠ "" := by
  refine ⟨tagToken_inj, toList_tagToken m, fun _ => Text.mem_hexDigits_of_mem_hex, ?_,
    ofHex?_tagToken m, escapePhrase_tagToken m, storedCell_eq_tagToken m, answers_storedCell_iff,
    fun _ _ => Catalog.answers_refreshTokens_iff⟩
  rw [tagToken, Text.length_hex]
  exact even_two_mul _

/-- The row of a file that carries the empty tag does not answer the query for the empty tag. -/
theorem tag_tokens_miss_empty :
    ¬ Answers (storedCell "") (tagQuery "") ∧
    (Catalog.refreshTokens ⟨[⟨1, "a", true⟩], [(1, "")], [], none⟩).answers (tagQuery "") 1 =
      false :=
  ⟨fun h => (answers_storedCell_iff.1 h).2 rfl, by cbv⟩

end TagSearch
