import TagSearch.Expr.Basic

/-!
# Displayed expressions

The text that shows the structure of an expression: every node by its name and its parts by theirs.

* `Expr.display` is that text.
-/

namespace TagSearch

/-- A term by the name of its sort and its text. -/
def Term.display : Term → String
  | .tag name => "Tag(name=" ++ Text.display name ++ ")"
  | .inPath pattern => "InPath(pattern=" ++ Text.display pattern ++ ")"

/-- An expression by its nodes. -/
def Expr.display : Expr → String
  | .term t => "Term(symbol=" ++ t.display ++ ")"
  | .not e => "Not(inner=" ++ e.display ++ ")"
  | .and l r => "And(left=" ++ l.display ++ ", right=" ++ r.display ++ ")"
  | .or l r => "Or(left=" ++ l.display ++ ", right=" ++ r.display ++ ")"

end TagSearch
