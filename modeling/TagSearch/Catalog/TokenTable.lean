import TagSearch.Catalog.Basic
import TagSearch.Text.Doubled
import TagSearch.Text.Hex
import TagSearch.Text.TokenChar

/-!
# The token table

Tags are searched through a table with one row per tag of a file. The cell of a row holds the tag
as hexadecimal digits, so it is one token whatever the tag is made of. A search asks for a token by
a small query text that names the column and quotes the token.

* `tagToken` is the token that a search asks for, `storedCell` the cell that is stored.
* `Catalog.refreshTokens` makes the table agree with the tags.
* `cellTokens` cuts a cell into its tokens, the longest runs of characters that do not separate.
-/

namespace TagSearch

/-- The token by which a tag is searched. -/
def tagToken (name : String) : String := Text.hex name

/-- The cell stored for a tag: its upper-case digits put in lower case. -/
def storedCell (name : String) : String := (Text.hexUpper name).toLower

/-- The column that token queries search. -/
def tokenColumn : String := "tag_key"

/-- The inside of a quoted phrase in a token query. -/
def escapePhrase (s : String) : String := String.ofList (Text.double '"' s.toList)

/-- The query text that asks for one token. -/
def tokenQuery (token : String) : String := tokenColumn ++ ":\"" ++ escapePhrase token ++ "\""

/-- The query text that asks for one tag. -/
def tagQuery (name : String) : String := tokenQuery (tagToken name)

/-- The token that a query text asks for: the column, a colon, and one quoted phrase. -/
def phraseOfQuery? (query : List Char) : Option String :=
  let lead := tokenColumn.toList ++ [':', '"']
  if query.take lead.length = lead then
    match Text.unquote '"' (query.drop lead.length) with
    | some (phrase, []) => some (String.ofList phrase)
    | _ => none
  else none

/-- The tokens of a cell that follows the characters `run` of a token, given in reverse. -/
def tokensFrom (run : List Char) : List Char → List String
  | [] => if run.isEmpty then [] else [String.ofList run.reverse]
  | c :: rest =>
    match Text.tokenRole c with
    | .letter d => tokensFrom (d :: run) rest
    | .mark => tokensFrom run rest
    | .separator =>
      if run.isEmpty then tokensFrom [] rest
      else String.ofList run.reverse :: tokensFrom [] rest

/-- The tokens of a cell. -/
def cellTokens (cell : String) : List String := tokensFrom [] cell.toList

namespace Catalog

/-- The token table with one row per tag, and no other row. -/
def refreshTokens (c : Catalog) : Catalog :=
  { c with tokens := c.tags.map fun (id, name) => (storedCell name, id) }

/-- Whether the token table has a row of a file whose cell holds a token. -/
def hasToken (c : Catalog) (token : String) (id : Int) : Bool :=
  c.tokens.any fun (cell, owner) => owner == id && (cellTokens cell).contains token

end Catalog

end TagSearch
