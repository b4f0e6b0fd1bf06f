import TagSearch.Text.Blank
import TagSearch.Text.Display

/-!
# Tag expressions

An expression is a boolean combination of terms: a tag that a file carries, or a pattern that its
path matches. The text of a term is never blank in an expression built from outside, which the two
checked constructors see to.

* `Term.check` admits a term whose text is not blank and reports the term itself otherwise.
* `Expr.children` lists the direct subexpressions from left to right.
-/

namespace TagSearch

/-- A leaf of an expression. -/
inductive Term where
  /-- The file carries the tag `name`. -/
  | tag (name : String)
  /-- The path of the file matches `pattern`. -/
  | inPath (pattern : String)
  deriving DecidableEq, Repr, Inhabited

/-- A boolean combination of terms. -/
inductive Expr where
  | term (t : Term)
  | not (inner : Expr)
  | and (left right : Expr)
  | or (left right : Expr)
  deriving DecidableEq, Repr, Inhabited

namespace Term

/-- The text that a term holds. -/
def text : Term → String
  | .tag name => name
  | .inPath pattern => pattern

/-- The word that messages use for the sort of a term. -/
def sort : Term → String
  | .tag _ => "tag"
  | .inPath _ => "inpath"

/-- The term itself if its text is not blank, and the term as the error if it is. -/
def check (t : Term) : Except Term Term :=
  if Text.isBlankText t.text then .error t else .ok t

/-- What is said about a term whose text is blank. -/
def blankMessage (t : Term) : String :=
  "Invalid " ++ t.sort ++ " term: " ++ Text.display t.text ++ " is empty"

theorem check_eq_ok_iff {t u : Term} :
    t.check = .ok u ↔ u = t ∧ Text.isBlankText t.text = false := by
  cases h : Text.isBlankText t.text <;> simp [check, h, eq_comm]

end Term

namespace Expr

/-- The direct subexpressions, from left to right. -/
def children : Expr → List Expr
  | .term _ => []
  | .not e => [e]
  | .and l r => [l, r]
  | .or l r => [l, r]

/-- The number of nodes. -/
def size : Expr → Nat
  | .term _ => 1
  | .not e => e.size + 1
  | .and l r => l.size + r.size + 1
  | .or l r => l.size + r.size + 1

/-- The number of nodes of some expressions. -/
def totalSize : List Expr → Nat
  | [] => 0
  | e :: es => e.size + totalSize es

@[simp] theorem totalSize_append (l₁ l₂ : List Expr) :
    totalSize (l₁ ++ l₂) = totalSize l₁ + totalSize l₂ := by
  induction l₁ with
  | nil => simp [totalSize]
  | cons e es ih => simp [totalSize, ih, Nat.add_assoc]

theorem size_eq (e : Expr) : e.size = totalSize e.children + 1 := by
  cases e <;> simp [size, children, totalSize]

/-- The terms of an expression, from left to right. -/
def terms : Expr → List Term
  | .term t => [t]
  | .not e => e.terms
  | .and l r => l.terms ++ r.terms
  | .or l r => l.terms ++ r.terms

end Expr

end TagSearch
