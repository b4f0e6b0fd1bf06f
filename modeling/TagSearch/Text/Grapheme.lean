import TagSearch.Text.CellWidth

/-!
# Widths of texts

The number of columns that a text takes on a terminal. Characters without width belong to the
character in front of them. The zero-width joiner draws the next character into the one in front of
it, and the emoji selector asks that the character in front of it is drawn as an emoji.

* `textWidth` is the width of a text.
* `graphemes` cuts a text into what a reader sees as single characters, each with its width.
* `takeCells` is the part of a text that fills a number of columns.
-/

namespace TagSearch.Text

/-- The zero-width joiner. -/
def joiner : Char := '\u200D'

/-- The character that asks for the emoji presentation of the character in front of it. -/
def emojiSelector : Char := '\uFE0F'

/-! ## Widths -/

/-- The column that the emoji selector adds behind the character `last`. -/
def widening (last : Option Char) : Nat := if last.any canWiden then 1 else 0

/-- The width of a text behind `last`, the last character with a width that was not yet followed by
the emoji selector. -/
def widthBehind (last : Option Char) : List Char → Nat
  | [] => 0
  | c :: s =>
    if c = joiner then
      match s with
      | [] => 0
      | _ :: s => widthBehind last s
    else if c = emojiSelector then widening last + widthBehind none s
    else if cellWidth c = 0 then widthBehind last s
    else cellWidth c + widthBehind (some c) s

/-- The number of columns that a text takes. -/
def textWidth (s : List Char) : Nat := widthBehind none s

/-! ## Graphemes -/

/-- What a reader sees as one character, and its width. -/
structure Grapheme where
  chars : List Char
  width : Nat
  deriving DecidableEq, Repr

/-- A grapheme with further characters that add some width. -/
def Grapheme.extend (g : Grapheme) (chars : List Char) (width : Nat) : Grapheme :=
  ⟨g.chars ++ chars, g.width + width⟩

/-- The graphemes of a text behind the grapheme `g`, in which the character `last` can still be
widened. -/
def graphemesBehind (g : Grapheme) (last : Option Char) : List Char → List Grapheme
  | [] => [g]
  | c :: s =>
    if c = joiner then
      match s with
      | [] => [g.extend [c] 0]
      | d :: s => graphemesBehind (g.extend [c, d] 0) last s
    else if c = emojiSelector then
      graphemesBehind (g.extend [c] (widening last)) (if last.any canWiden then none else last) s
    else if cellWidth c = 0 then graphemesBehind (g.extend [c] 0) last s
    else g :: graphemesBehind ⟨[c], cellWidth c⟩ (some c) s

/-- The graphemes of a text. -/
def graphemes : List Char → List Grapheme
  | [] => []
  | c :: s => graphemesBehind ⟨[c], cellWidth c⟩ (if cellWidth c = 0 then none else some c) s

/-- The characters of the graphemes that fit into a number of columns. A column that is left in
front of a wide grapheme is filled with a space. -/
def fillCells (columns : Nat) : List Grapheme → List Char
  | [] => []
  | g :: rest =>
    if columns = 0 then []
    else if g.width ≤ columns then g.chars ++ fillCells (columns - g.width) rest
    else [' ']

/-- The start of a text that takes a number of columns. -/
def takeCells (columns : Nat) (s : List Char) : List Char := fillCells columns (graphemes s)

end TagSearch.Text
