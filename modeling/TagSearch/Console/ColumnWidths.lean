import TagSearch.Console.Cell
import TagSearch.Text.Shortest

/-!
# Widths of columns

Each column asks for the width of its widest cell and one space on both sides. If the columns
together are wider than allowed, the widest ones of those that wrap give way first, then all.

* `shareOut` takes a total from some numbers in equal parts.
* `fitWidths` are the widths that columns get.
-/

namespace TagSearch

/-- A number that may give way. -/
structure Share where
  value : Nat
  /-- The largest part that is taken from the value. -/
  most : Nat
  deriving DecidableEq, Repr

/-- The values after a total was taken from them in parts as equal as possible. A value from which
nothing may be taken has no part in it. -/
def shareOut (total : Nat) : List Share → List Nat
  | [] => []
  | s :: rest =>
    if s.most = 0 then s.value :: shareOut total rest
    else
      let part := min s.most (Text.roundQuotient total (rest.countP (·.most != 0) + 1))
      (s.value - part) :: shareOut (total - part) rest

/-- The sum of some widths. -/
def totalWidth (widths : List Nat) : Nat := widths.foldl (· + ·) 0

/-- The shares when the widest columns of those that wrap give way, but at most down to the next
widest. -/
def widestShares (excess : Nat) (columns : List (Bool × Nat)) : List Share :=
  let wrapping := (columns.filter (·.1)).map (·.2)
  let widest := wrapping.foldl max 0
  let next := (wrapping.filter (· != widest)).foldl max 0
  columns.map fun (wraps, w) =>
    ⟨w, if wraps && w == widest then min excess (widest - next) else 0⟩

/-- The widths after columns that wrap gave way, the widest first, until the limit is kept or none
of them is left. -/
def narrowWidest (limit : Nat) (wraps : List Bool) : (fuel : Nat) → List Nat → List Nat
  | 0, widths => widths
  | fuel + 1, widths =>
    let excess := totalWidth widths - limit
    let shares := widestShares excess (wraps.zip widths)
    if shares.all (·.most == 0) then widths
    else narrowWidest limit wraps fuel (shareOut excess shares)

/-- The widths with all columns giving way as far as the limit asks for it. -/
def narrowAll (limit : Nat) (widths : List Nat) : List Nat :=
  shareOut (totalWidth widths - limit) (widths.map fun w => ⟨w, w⟩)

/-- The widths that columns get of those that they ask for. No column gets more than the limit, and
in every step of `narrowWidest` some column gives way. -/
def fitWidths (limit : Option Nat) (wraps : List Bool) (widths : List Nat) : List Nat :=
  match limit with
  | none => widths
  | some limit =>
    let widths := widths.map (min limit)
    if totalWidth widths ≤ limit then widths
    else narrowAll limit (narrowWidest limit wraps (totalWidth widths - limit) widths)

end TagSearch
