import TagSearch.Console.Report

/-!
# Cells of a table

How a text is laid out in a cell of some width. Each line of the text is broken between its words,
unless its column keeps lines whole. What does not fit into a line is cut off and an ellipsis takes
the last column.

* `wrapLine` breaks a line, `shorten` cuts one off.
* `TableColumn.layout` is a text as the lines of a cell.
* `naturalWidth` is the width that a text asks for.
-/

namespace TagSearch

/-- Where the text of a cell stands. -/
inductive Alignment where
  | left
  | right
  | center
  deriving DecidableEq, Repr

/-- A column of a table. -/
structure TableColumn where
  head : String
  alignment : Alignment := .left
  /-- Whether lines that are too long are broken between words. -/
  wraps : Bool := true
  deriving DecidableEq, Repr

/-! ## Widths -/

/-- The characters at which a text is cut into lines to measure it. -/
def isLineBreak (c : Char) : Bool :=
  let n := c.toNat
  (10 ≤ n && n ≤ 13) || (28 ≤ n && n ≤ 30) || n == 0x85 || n == 0x2028 || n == 0x2029

/-- The width that a text asks for, that of its longest line. Tabs do not count. -/
def naturalWidth (text : String) : Nat :=
  (((printedText text).splitOnP isLineBreak).map Text.textWidth).foldl max 0

/-! ## Breaking lines -/

/-- Words, each with the blanks behind it. -/
def splitWords : List Char → List (List Char)
  | [] => []
  | c :: s =>
    let behind := s.dropWhile fun d => !Text.isBlank d
    (c :: s.takeWhile (fun d => !Text.isBlank d) ++ behind.takeWhile Text.isBlank) ::
      splitWords (behind.dropWhile Text.isBlank)
termination_by s => s.length
decreasing_by
  have h₁ := (List.dropWhile_sublist (l := s) fun d => !Text.isBlank d).length_le
  have h₂ := (List.dropWhile_sublist (l := s.dropWhile fun d => !Text.isBlank d)
    Text.isBlank).length_le
  simp only [List.length_cons]
  omega

/-- The words of a line. The blanks in front of the first one belong to it. -/
def lineWords (line : List Char) : List (List Char) :=
  match splitWords (line.dropWhile Text.isBlank) with
  | [] => []
  | word :: words => (line.takeWhile Text.isBlank ++ word) :: words

/-- The lines that words make behind the start of a line, of which some columns are used. A word
goes to the next line if it does not fit into this one. -/
def breakWords (width used : Nat) (line : List Char) : List (List Char) → List (List Char)
  | [] => [line]
  | word :: words =>
    let size := Text.textWidth (Text.dropBlankEnd word)
    if used + size ≤ width then
      breakWords width (used + Text.textWidth word) (line ++ word) words
    else if line.isEmpty then
      breakWords width (if width < size then Text.textWidth word else used) word words
    else if width < size ∨ 0 < used then
      line :: breakWords width (Text.textWidth word) word words
    else breakWords width used (line ++ word) words

/-- A line without the blanks at its end, as far as it has more characters than columns. -/
def dropExcessBlanks (width : Nat) (line : List Char) : List Char :=
  let blanks := line.length - (Text.dropBlankEnd line).length
  line.take (line.length - min blanks (line.length - width))

/-- A line broken between words into lines of a width. -/
def wrapLine (width : Nat) (line : List Char) : List (List Char) :=
  let lines := match lineWords line with
    | [] => [line]
    | words => breakWords width 0 [] words
  lines.map (dropExcessBlanks width)

/-! ## Filling lines -/

/-- A line cut off at a width. -/
def shorten (width : Nat) (line : List Char) : List Char :=
  if Text.textWidth line ≤ width then line else Text.takeCells (width - 1) line ++ ['…']

/-- A line filled up with spaces to a width. -/
def Alignment.fill (a : Alignment) (width : Nat) (line : List Char) : List Char :=
  let space := width - Text.textWidth line
  match a with
  | .left => line ++ List.replicate space ' '
  | .right => List.replicate space ' ' ++ line
  | .center => List.replicate (space / 2) ' ' ++ line ++ List.replicate (space - space / 2) ' '

/-- A line in a column of a width. -/
def Alignment.fit (a : Alignment) (width : Nat) (line : List Char) : List Char :=
  a.fill width (shorten width (if a = .left then line else Text.dropBlankEnd line))

/-- A text as the lines of a cell of a width. -/
def TableColumn.layout (c : TableColumn) (width : Nat) (text : String) : List (List Char) :=
  let lines := (textLines (printedText text)).map expandTabs
  (if c.wraps then lines.flatMap (wrapLine width) else lines).map (c.alignment.fit width)

end TagSearch
