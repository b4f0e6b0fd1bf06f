import TagSearch.Predicate.Basic
import TagSearch.Predicate.Condition
import TagSearch.Proofs.Lists
import Mathlib

/-!
# The tokens of a printed predicate

The text of a predicate is cut into the tokens that the predicate is made of, whatever the texts in
its leaves are. The pieces of the text are cut one by one: the tokens of a piece do not depend on
what follows it, as long as that begins like another token.

* `Predicate.tokens` lists the tokens of a predicate.
* `conditionTokens?_append`: a text is cut piece by piece.
* `Predicate.conditionTokens?_render`: the printed text has these tokens.
-/

namespace TagSearch

/-! ## What a predicate is made of -/

namespace Predicate

/-- The tokens of the look-up of the files that have a token. -/
def lookupTokens (token : String) : List ConditionToken :=
  [.opening, .keyword .select, .name "files_fts.file_id", .keyword .source, .name "files_fts",
    .keyword .filter, .name "files_fts", .keyword .matching, .literal (tokenQuery token), .closing]

/-- The tokens of an operand of `AND`: those of a disjunction get parentheses. -/
def groupTokens (p : Predicate) (tokens : List ConditionToken) : List ConditionToken :=
  match p with
  | .or _ _ => .opening :: tokens ++ [.closing]
  | _ => tokens

/-- The tokens of a predicate. -/
def tokens : Predicate → List ConditionToken
  | .hasToken false token => .name "files.id" :: .keyword .isIn :: lookupTokens token
  | .hasToken true token =>
    .opening :: (.name "files.id" :: .keyword .not :: .keyword .isIn :: lookupTokens token) ++
      [.closing]
  | .pathLike false pattern =>
    [.name "files.path", .keyword .like, .literal pattern, .keyword .escape,
      .literal Like.escapeChar.toString]
  | .pathLike true pattern =>
    [.name "files.path", .keyword .not, .keyword .like, .literal pattern, .keyword .escape,
      .literal Like.escapeChar.toString]
  | .and l r => groupTokens l l.tokens ++ .keyword .and :: groupTokens r r.tokens
  | .or l r => l.tokens ++ .keyword .or :: r.tokens
  | .not p => .keyword .not :: (.opening :: p.tokens ++ [.closing])

end Predicate

/-! ## Cutting piece by piece -/

/-- What may follow a token: nothing, or neither a part of a word nor a quote. -/
def Boundary (rest : List Char) : Prop :=
  ∀ c ∈ rest.head?, isWordChar c = false ∧ c ≠ '\''

theorem boundary_cons {c : Char} {rest : List Char} (h : isWordChar c = false ∧ c ≠ '\'') :
    Boundary (c :: rest) := by
  intro d hd
  obtain rfl := Option.mem_some_iff.1 hd
  exact h

theorem conditionTokens?_gap {c : Char} (rest : List Char) (h : c = ' ' ∨ c = '\n') :
    conditionTokens? (c :: rest) = conditionTokens? rest := by
  rw [conditionTokens?, if_pos h]

theorem conditionTokens?_opening (rest : List Char) :
    conditionTokens? ('(' :: rest) = (conditionTokens? rest).map (.opening :: ·) := by
  rw [conditionTokens?, if_neg (by decide), if_pos rfl]

theorem conditionTokens?_closing (rest : List Char) :
    conditionTokens? (')' :: rest) = (conditionTokens? rest).map (.closing :: ·) := by
  rw [conditionTokens?, if_neg (by decide), if_neg (by decide), if_pos rfl]

theorem conditionTokens?_quote {s text rest : List Char}
    (h : Text.unquote '\'' s = some (text, rest)) :
    conditionTokens? ('\'' :: s) =
      (conditionTokens? rest).map (.literal (String.ofList text) :: ·) := by
  rw [conditionTokens?, if_neg (by decide), if_neg (by decide), if_neg (by decide), if_pos rfl]
  split
  · next found =>
      rw [h] at found
      obtain ⟨rfl, rfl⟩ := Prod.mk.inj (Option.some.inj found)
      rfl
  · next lost =>
      rw [h] at lost
      cases lost

theorem conditionTokens?_word {c : Char} (rest : List Char) (h : isWordChar c = true) :
    conditionTokens? (c :: rest) =
      (conditionTokens? (rest.dropWhile isWordChar)).map
        (.ofWord (String.ofList (c :: rest.takeWhile isWordChar)) :: ·) := by
  have other : ∀ d, isWordChar d = false → c ≠ d := by
    rintro d hd rfl
    rw [h] at hd
    cases hd
  rw [conditionTokens?, if_neg (not_or.2 ⟨other _ (by decide), other _ (by decide)⟩),
    if_neg (other _ (by decide)), if_neg (other _ (by decide)), if_neg (other _ (by decide)),
    if_pos h]

/-- **A text is cut piece by piece**, where the next piece begins like another token. -/
theorem conditionTokens?_append {s t : List Char} {ts : List ConditionToken}
    (h : conditionTokens? s = some ts) (ht : Boundary t) :
    conditionTokens? (s ++ t) = (conditionTokens? t).map (ts ++ ·) := by
  fun_induction conditionTokens? s generalizing ts with
  | case1 =>
    obtain rfl := Option.some.inj h
    simp
  | case2 c rest gap ih => rw [List.cons_append, conditionTokens?_gap _ gap, ih h]
  | case3 rest _ ih =>
    obtain ⟨us, hus, rfl⟩ := Option.map_eq_some_iff.1 h
    rw [List.cons_append, conditionTokens?_opening, ih hus, Option.map_map]
    rfl
  | case4 rest _ _ ih =>
    obtain ⟨us, hus, rfl⟩ := Option.map_eq_some_iff.1 h
    rw [List.cons_append, conditionTokens?_closing, ih hus, Option.map_map]
    rfl
  | case5 s text rest found _ _ _ ih =>
    obtain ⟨us, hus, rfl⟩ := Option.map_eq_some_iff.1 h
    have behind : t.head? ≠ some '\'' := fun e => (ht _ (by rw [e]; rfl)).2 rfl
    rw [List.cons_append, conditionTokens?_quote (Text.unquote_append found behind), ih hus,
      Option.map_map]
    rfl
  | case6 => cases h
  | case7 c rest _ _ _ _ word ih =>
    obtain ⟨us, hus, rfl⟩ := Option.map_eq_some_iff.1 h
    -- The word ends where it did, since no word goes on in the next piece.
    have stop : ∀ d ∈ t.head?, isWordChar d = false := fun d hd => (ht d hd).1
    have behind : (rest ++ t).dropWhile isWordChar = rest.dropWhile isWordChar ++ t := by
      rw [List.dropWhile_append]
      split
      · next none => rw [dropWhile_of_head? stop, List.isEmpty_iff.1 none, List.nil_append]
      · rfl
    have inside : (rest ++ t).takeWhile isWordChar = rest.takeWhile isWordChar := by
      rw [List.takeWhile_append]
      split
      · next all => rw [takeWhile_of_head? stop, List.append_nil,
          (List.takeWhile_prefix _).eq_of_length all]
      · rfl
    rw [List.cons_append, conditionTokens?_word _ word, behind, inside, ih hus, Option.map_map]
    rfl
  | case8 => cases h

/-! ## Pieces of a printed predicate -/

section Pieces

variable {s t : String} {ts us : List ConditionToken}

theorem conditionTokens?_join (hs : conditionTokens? s.toList = some ts)
    (ht : conditionTokens? t.toList = some us) (b : Boundary t.toList) :
    conditionTokens? (s ++ t).toList = some (ts ++ us) := by
  rw [String.toList_append, conditionTokens?_append hs b, ht, Option.map_some]

/-- A piece that ends in a space, and any piece behind it. -/
theorem conditionTokens?_spaced {lead words : String} (h : lead.toList = words.toList ++ [' '])
    (hw : conditionTokens? words.toList = some ts) (ht : conditionTokens? t.toList = some us) :
    conditionTokens? (lead ++ t).toList = some (ts ++ us) := by
  have gap : Boundary (' ' :: t.toList) := boundary_cons (by decide)
  rw [String.toList_append, h, List.append_assoc, List.singleton_append,
    conditionTokens?_append hw gap, conditionTokens?_gap _ (Or.inl rfl), ht, Option.map_some]

/-- Two pieces with a word between them. -/
theorem conditionTokens?_between {middle word : String} {k : ConditionToken}
    (h : middle.toList = ' ' :: word.toList ++ [' '])
    (hw : conditionTokens? word.toList = some [k]) (hs : conditionTokens? s.toList = some ts)
    (ht : conditionTokens? t.toList = some us) :
    conditionTokens? (s ++ middle ++ t).toList = some (ts ++ k :: us) := by
  have left : Boundary (' ' :: (word.toList ++ ' ' :: t.toList)) := boundary_cons (by decide)
  have right : Boundary (' ' :: t.toList) := boundary_cons (by decide)
  have text : (s ++ middle ++ t).toList = s.toList ++ ' ' :: (word.toList ++ ' ' :: t.toList) := by
    rw [String.toList_append, String.toList_append, h]
    simp
  rw [text, conditionTokens?_append hs left, conditionTokens?_gap _ (Or.inl rfl),
    conditionTokens?_append hw right, conditionTokens?_gap _ (Or.inl rfl), ht]
  rfl

theorem conditionTokens?_opened (hs : conditionTokens? s.toList = some ts) :
    conditionTokens? ("(" ++ s).toList = some (.opening :: ts) := by
  rw [String.toList_append, show "(".toList = ['('] from rfl, List.singleton_append,
    conditionTokens?_opening, hs, Option.map_some]

theorem conditionTokens?_closed (hs : conditionTokens? s.toList = some ts) :
    conditionTokens? (s ++ ")").toList = some (ts ++ [.closing]) := by
  refine conditionTokens?_join hs (by cbv) ?_
  rw [show ")".toList = [')'] from rfl]
  exact boundary_cons (by decide)

theorem conditionTokens?_literal (s : String) :
    conditionTokens? (Predicate.literal s).toList = some [.literal s] := by
  have none : ([] : List Char).head? ≠ some '\'' := by simp
  rw [Predicate.literal, String.toList_ofList, Text.quoted, List.cons_append,
    conditionTokens?_quote (Text.unquote_double s.toList none), String.ofList_toList,
    conditionTokens?]
  rfl

end Pieces

/-! ## The tokens of a printed predicate -/

namespace Predicate

theorem conditionTokens?_renderLookup (token : String) :
    conditionTokens? (renderLookup token).toList = some (lookupTokens token) := by
  have lead : "(SELECT files_fts.file_id \nFROM files_fts \nWHERE files_fts MATCH ".toList =
      "(SELECT files_fts.file_id \nFROM files_fts \nWHERE files_fts MATCH".toList ++ [' '] := by
    simp
  have words : conditionTokens?
      "(SELECT files_fts.file_id \nFROM files_fts \nWHERE files_fts MATCH".toList =
        some [.opening, .keyword .select, .name "files_fts.file_id", .keyword .source,
          .name "files_fts", .keyword .filter, .name "files_fts", .keyword .matching] := by
    cbv
  exact conditionTokens?_closed
    (conditionTokens?_spaced lead words (conditionTokens?_literal (tokenQuery token)))

theorem conditionTokens?_hasToken (negated : Bool) (token : String) :
    conditionTokens? (render (.hasToken negated token)).toList =
      some (tokens (.hasToken negated token)) := by
  have lookup := conditionTokens?_renderLookup token
  cases negated with
  | false =>
    have lead : "files.id IN ".toList = "files.id IN".toList ++ [' '] := by simp
    have words : conditionTokens? "files.id IN".toList =
        some [.name "files.id", .keyword .isIn] := by
      cbv
    exact conditionTokens?_spaced lead words lookup
  | true =>
    have lead : "(files.id NOT IN ".toList = "(files.id NOT IN".toList ++ [' '] := by simp
    have words : conditionTokens? "(files.id NOT IN".toList =
        some [.opening, .name "files.id", .keyword .not, .keyword .isIn] := by
      cbv
    exact conditionTokens?_closed (conditionTokens?_spaced lead words lookup)

theorem conditionTokens?_pathLike (negated : Bool) (pattern : String) :
    conditionTokens? (render (.pathLike negated pattern)).toList =
      some (tokens (.pathLike negated pattern)) := by
  have middle : " ESCAPE ".toList = ' ' :: "ESCAPE".toList ++ [' '] := by simp
  have word : conditionTokens? "ESCAPE".toList = some [.keyword .escape] := by cbv
  have text := conditionTokens?_literal pattern
  have escape := conditionTokens?_literal Like.escapeChar.toString
  cases negated with
  | false =>
    have lead : "files.path LIKE ".toList = "files.path LIKE".toList ++ [' '] := by simp
    have words : conditionTokens? "files.path LIKE".toList =
        some [.name "files.path", .keyword .like] := by
      cbv
    exact conditionTokens?_between middle word (conditionTokens?_spaced lead words text) escape
  | true =>
    have lead : "files.path NOT LIKE ".toList = "files.path NOT LIKE".toList ++ [' '] := by simp
    have words : conditionTokens? "files.path NOT LIKE".toList =
        some [.name "files.path", .keyword .not, .keyword .like] := by
      cbv
    exact conditionTokens?_between middle word (conditionTokens?_spaced lead words text) escape

theorem conditionTokens?_parenthesize {p : Predicate} {text : String} {ts : List ConditionToken}
    (h : conditionTokens? text.toList = some ts) :
    conditionTokens? (parenthesize p text).toList = some (groupTokens p ts) := by
  cases p with
  | or l r => exact conditionTokens?_closed (conditionTokens?_opened h)
  | hasToken | pathLike | and | not => exact h

/-- **The printed text has the tokens that the predicate is made of**, whatever the texts in its
leaves are. -/
theorem conditionTokens?_render (p : Predicate) :
    conditionTokens? p.render.toList = some p.tokens := by
  induction p with
  | hasToken negated token => exact conditionTokens?_hasToken negated token
  | pathLike negated pattern => exact conditionTokens?_pathLike negated pattern
  | and l r ihl ihr =>
    have middle : " AND ".toList = ' ' :: "AND".toList ++ [' '] := by simp
    have word : conditionTokens? "AND".toList = some [.keyword .and] := by cbv
    exact conditionTokens?_between middle word (conditionTokens?_parenthesize ihl)
      (conditionTokens?_parenthesize ihr)
  | or l r ihl ihr =>
    have middle : " OR ".toList = ' ' :: "OR".toList ++ [' '] := by simp
    have word : conditionTokens? "OR".toList = some [.keyword .or] := by cbv
    exact conditionTokens?_between middle word ihl ihr
  | not p ih =>
    have lead : "NOT ".toList = "NOT".toList ++ [' '] := by simp
    have word : conditionTokens? "NOT".toList = some [.keyword .not] := by cbv
    have text : (Predicate.not p).render = "NOT " ++ (("(" ++ p.render) ++ ")") := by
      rw [← String.append_assoc, ← String.append_assoc]
      rfl
    rw [text]
    exact conditionTokens?_spaced lead word (conditionTokens?_closed (conditionTokens?_opened ih))

end Predicate

end TagSearch
