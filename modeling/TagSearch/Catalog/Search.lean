import TagSearch.Predicate.Basic
import TagSearch.Predicate.Condition

/-!
# Searching a catalog

A search returns the recorded files, present or missing, that satisfy the predicate of an
expression, in increasing order of their paths and cut to a limit. The engine is taken to carry out
the statement of the expression: that it binds no more values and is no deeper than the engine
allows is not checked here.

* `Catalog.search` searches, `Catalog.select` with a predicate that was compiled before.
* `Catalog.selectWhere?` selects by the text of a condition.
* `takeLimit` cuts a list; a negative limit cuts nothing, and one beyond 64 bits is refused.
-/

namespace TagSearch

/-- A limit that does not fit into a signed number of 64 bits. -/
inductive SearchError where
  | limitTooLarge
  deriving DecidableEq, Repr

/-- The wording of a search error. -/
def SearchError.message : SearchError → String
  | .limitTooLarge => "Python int too large to convert to SQLite INTEGER"

/-- The least number that does not fit into a signed number of 64 bits. -/
def limitBound : Int := 9223372036854775808

/-- The first items of a list, as many as the limit says. -/
def takeLimit {α : Type} (limit : Option Int) (items : List α) : Except SearchError (List α) :=
  match limit with
  | none => .ok items
  | some n =>
    if n < -limitBound ∨ limitBound ≤ n then .error .limitTooLarge
    else if n < 0 then .ok items
    else .ok (items.take n.toNat)

namespace Catalog

/-- The files that pass a test, in increasing order of their paths. -/
def pick (c : Catalog) (test : FileRecord → Bool) : List FileRecord :=
  (c.files.filter test).mergeSort fun f g => decide (f.path ≤ g.path)

/-- The files that satisfy a predicate. -/
def select (c : Catalog) (p : Predicate) : List FileRecord := c.pick (p.holds c)

/-- The files that satisfy a condition given as a text, if the text is one. -/
def selectWhere? (c : Catalog) (text : String) : Option (List FileRecord) :=
  (Condition.ofText? text).map fun p => c.pick (p.holds c)

/-- The files that an expression asks for, in increasing order of their paths and cut to the
limit. -/
def search (c : Catalog) (e : Expr) (m : PathMatch) (limit : Option Int) :
    Except SearchError (List FileRecord) :=
  takeLimit limit (c.select (.ofExpr m e))

end Catalog

end TagSearch
