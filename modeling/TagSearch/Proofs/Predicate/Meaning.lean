import TagSearch.Expr.Meaning
import TagSearch.Predicate.Basic

/-!
# The meaning of compiled predicates

The predicate of an expression has the value that the expression has when every term is looked up
in the tables, whatever the tables hold.

* `Term.Found` is what the tables say of a term and a file.
* `Predicate.holds_ofExpr_iff`: compiling keeps the meaning.
-/

namespace TagSearch

/-- What the tables say of a term and a file: a tag has its token in a row of the file, a pattern
matches the path. -/
def Term.Found (m : PathMatch) (c : Catalog) (f : FileRecord) : Term → Prop
  | .tag name => c.hasToken (tagToken name) f.id = true
  | .inPath pattern => Like.acceptsPath (m.pattern pattern) f.path = true

namespace Predicate

theorem holds_ofTerm_iff {m : PathMatch} {c : Catalog} {f : FileRecord} {t : Term} :
    (ofTerm m t).holds c f = true ↔ t.Found m c f := by
  cases t <;> simp [ofTerm, holds, Term.Found]

/-- **Compiling keeps the meaning**, whatever the tables hold. -/
theorem holds_ofExpr_iff {m : PathMatch} {c : Catalog} {f : FileRecord} {e : Expr} :
    (ofExpr m e).holds c f = true ↔ e.Holds (Term.Found m c f) := by
  induction e with
  | term t => exact holds_ofTerm_iff
  | not e ih => rw [ofExpr, holds_negate, Expr.Holds, ← ih, Bool.not_eq_true', Bool.not_eq_true]
  | and l r ihl ihr => rw [ofExpr, holds, Bool.and_eq_true, ihl, ihr, Expr.Holds]
  | or l r ihl ihr => rw [ofExpr, holds, Bool.or_eq_true, ihl, ihr, Expr.Holds]

end Predicate

end TagSearch
