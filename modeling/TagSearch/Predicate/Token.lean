import TagSearch.Text.Doubled

/-!
# Tokens of a condition

The text of a condition is cut into keywords, names of columns and tables, literals between single
quotes, and parentheses. Spaces and line breaks separate tokens and are dropped. Inside a literal
nothing is special but the quote, which is doubled.

* `conditionTokens?` cuts a text. It refuses a literal without an end and a character that starts no
  token.
-/

namespace TagSearch

/-- The keywords of conditions. -/
inductive Keyword where
  | and
  | or
  | not
  | isIn
  | like
  | escape
  | select
  | source
  | filter
  | matching
  deriving DecidableEq, Repr

namespace Keyword

/-- A keyword as written. -/
def name : Keyword → String
  | .and => "AND"
  | .or => "OR"
  | .not => "NOT"
  | .isIn => "IN"
  | .like => "LIKE"
  | .escape => "ESCAPE"
  | .select => "SELECT"
  | .source => "FROM"
  | .filter => "WHERE"
  | .matching => "MATCH"

/-- The keyword of a word. -/
def ofName? (word : String) : Option Keyword :=
  [and, or, not, isIn, like, escape, select, source, filter, matching].find? (·.name == word)

@[simp] theorem ofName?_name (k : Keyword) : ofName? k.name = some k := by cases k <;> decide

end Keyword

/-- A token of a condition. -/
inductive ConditionToken where
  | keyword (k : Keyword)
  /-- The name of a column or table. -/
  | name (text : String)
  /-- A text between quotes, without them and with its quotes no longer doubled. -/
  | literal (text : String)
  | opening
  | closing
  deriving DecidableEq, Repr

/-- The token of a word: a keyword, or else a name. -/
def ConditionToken.ofWord (word : String) : ConditionToken :=
  match Keyword.ofName? word with
  | some k => .keyword k
  | none => .name word

/-- The characters of words: letters, digits, the underscore, and the dot between the name of a
table and that of its column. -/
def isWordChar (c : Char) : Bool := c.isAlphanum || c == '_' || c == '.'

/-- The tokens of a text. -/
def conditionTokens? : List Char → Option (List ConditionToken)
  | [] => some []
  | c :: rest =>
    if c = ' ' ∨ c = '\n' then conditionTokens? rest
    else if c = '(' then (conditionTokens? rest).map (.opening :: ·)
    else if c = ')' then (conditionTokens? rest).map (.closing :: ·)
    else if c = '\'' then
      match _h : Text.unquote '\'' rest with
      | some (text, rest) => (conditionTokens? rest).map (.literal (String.ofList text) :: ·)
      | none => none
    else if isWordChar c then
      (conditionTokens? (rest.dropWhile isWordChar)).map
        (.ofWord (String.ofList (c :: rest.takeWhile isWordChar)) :: ·)
    else none
termination_by text => text.length
decreasing_by
  · simp
  · simp
  · simp
  · have := Text.length_lt_of_unquote _h
    simp only [List.length_cons]
    omega
  · exact Nat.lt_succ_of_le (List.dropWhile_sublist _).length_le

end TagSearch
