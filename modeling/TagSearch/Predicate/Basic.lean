import TagSearch.Catalog.TokenTable
import TagSearch.Expr.Basic
import TagSearch.Like

/-!
# Predicates on files

An expression is compiled into a predicate on the recorded files, in which every leaf is a look-up
in the token table or a comparison of the path with a pattern, and a negation of a leaf is part of
the leaf. A predicate is evaluated on a catalog and printed as the condition of a query.

* `Predicate.ofExpr` compiles an expression, `Predicate.negate` negates a predicate.
* `Predicate.holds` is the value of a predicate on a file, `Predicate.render` its text.
-/

namespace TagSearch

/-- A condition on a recorded file. -/
inductive Predicate where
  /-- The token table has, or lacks if `negated`, a row of the file with the token. -/
  | hasToken (negated : Bool) (token : String)
  /-- The path matches, or fails to match if `negated`, the pattern. -/
  | pathLike (negated : Bool) (pattern : String)
  | and (left right : Predicate)
  | or (left right : Predicate)
  | not (inner : Predicate)
  deriving DecidableEq, Repr

namespace Predicate

/-- The negation: a leaf changes its sign, and anything else is put under a negation. -/
def negate : Predicate → Predicate
  | .hasToken negated token => .hasToken (!negated) token
  | .pathLike negated pattern => .pathLike (!negated) pattern
  | p => .not p

/-- The predicate of a term. -/
def ofTerm (m : PathMatch) : Term → Predicate
  | .tag name => .hasToken false (tagToken name)
  | .inPath pattern => .pathLike false (m.pattern pattern)

/-- The predicate of an expression. -/
def ofExpr (m : PathMatch) : Expr → Predicate
  | .term t => ofTerm m t
  | .not e => (ofExpr m e).negate
  | .and l r => .and (ofExpr m l) (ofExpr m r)
  | .or l r => .or (ofExpr m l) (ofExpr m r)

/-- The value of a predicate on a file of a catalog. -/
def holds (c : Catalog) (f : FileRecord) : Predicate → Bool
  | .hasToken negated token => c.hasToken token f.id != negated
  | .pathLike negated pattern => Like.acceptsPath pattern f.path != negated
  | .and l r => l.holds c f && r.holds c f
  | .or l r => l.holds c f || r.holds c f
  | .not p => !p.holds c f

@[simp] theorem holds_negate (c : Catalog) (f : FileRecord) (p : Predicate) :
    p.negate.holds c f = !p.holds c f := by
  cases p with
  | hasToken negated => cases negated <;> simp [negate, holds]
  | pathLike negated => cases negated <;> simp [negate, holds]
  | and | or | not => rfl

/-! ## Text -/

/-- A text as a literal between single quotes. -/
def literal (s : String) : String := String.ofList (Text.quoted '\'' s.toList)

/-- The look-up of the files that have a token. -/
def renderLookup (token : String) : String :=
  "(SELECT files_fts.file_id \nFROM files_fts \nWHERE files_fts MATCH " ++
    literal (tokenQuery token) ++ ")"

/-- A predicate as an operand of `AND`: a disjunction gets parentheses. -/
def parenthesize (p : Predicate) (text : String) : String :=
  match p with
  | .or _ _ => "(" ++ text ++ ")"
  | _ => text

/-- A predicate as the condition of a query. -/
def render : Predicate → String
  | .hasToken false token => "files.id IN " ++ renderLookup token
  | .hasToken true token => "(files.id NOT IN " ++ renderLookup token ++ ")"
  | .pathLike false pattern =>
    "files.path LIKE " ++ literal pattern ++ " ESCAPE " ++ literal Like.escapeChar.toString
  | .pathLike true pattern =>
    "files.path NOT LIKE " ++ literal pattern ++ " ESCAPE " ++ literal Like.escapeChar.toString
  | .and l r => parenthesize l l.render ++ " AND " ++ parenthesize r r.render
  | .or l r => l.render ++ " OR " ++ r.render
  | .not p => "NOT (" ++ p.render ++ ")"

end Predicate

end TagSearch
