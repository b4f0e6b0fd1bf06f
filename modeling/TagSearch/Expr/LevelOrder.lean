import TagSearch.Expr.Basic

/-!
# Level order

The nodes of an expression level by level, each level from left to right. The walk keeps a queue of
the subexpressions still to visit: it takes the first one and puts its children at the end.

* `levelOrder` lists the nodes, `levelTerms` the terms among them.
* `atDepth` lists the nodes of one level.
* `tagNames` lists the tags of an expression without repetition, `hasPathTerm` tells whether it has
  a path pattern.
-/

namespace TagSearch.Expr

/-- The nodes at a depth, from left to right. -/
def atDepth : Nat → Expr → List Expr
  | 0, e => [e]
  | k + 1, e => e.children.flatMap (atDepth k)

/-- The nodes below a queue of expressions, in the order in which the queue serves them. -/
def visit : List Expr → List Expr
  | [] => []
  | e :: queue => e :: visit (queue ++ e.children)
termination_by queue => totalSize queue
decreasing_by
  rw [totalSize_append, totalSize, size_eq e]
  omega

/-- The nodes of an expression, level by level. -/
def levelOrder (e : Expr) : List Expr := visit [e]

/-- The terms of an expression, level by level. -/
def levelTerms (e : Expr) : List Term :=
  e.levelOrder.filterMap fun
    | .term t => some t
    | _ => none

/-- Whether some term is a path pattern. -/
def hasPathTerm (e : Expr) : Bool :=
  e.levelTerms.any fun
    | .inPath _ => true
    | .tag _ => false

/-- The names of the tags of an expression, each once. -/
def tagNames (e : Expr) : List String :=
  (e.levelTerms.filterMap fun
    | .tag name => some name
    | .inPath _ => none).eraseDups

end TagSearch.Expr
