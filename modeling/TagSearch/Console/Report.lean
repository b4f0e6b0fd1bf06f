import TagSearch.Text.Emoji
import TagSearch.Text.Grapheme

/-!
# Reports

What a command prints: one text for the standard output and one for the standard error. Lines for
a reader are cleaned: names of emoji are replaced, some control characters are dropped, and tabs are
filled up to the next multiple of eight columns. Results for other programs and messages about wrong
command lines only lose the sequences that would change the style of a terminal.

Messages may hold styles in brackets: what looks like one is not printed, and one that is closed but
was not opened is an error, which ends the run. This is not modelled. Messages are printed here as
they stand, which is right if the texts in them have no opening bracket.

* `isBracketFree` tells whether a text has no opening bracket.
* `cleanText` cleans a text, `styled` puts a message between the tags of a style.
* `Report.info`, `Report.success`, `Report.warn`, `Report.fail` and `Report.hint` add messages,
  `Report.say` and `Report.note` other lines for a reader, `Report.echo` a line for other programs.
-/

namespace TagSearch

/-! ## Cleaning -/

/-- The control characters that are dropped: bell, backspace, vertical tab, form feed and carriage
return. -/
def isDropped (c : Char) : Bool := [7, 8, 11, 12, 13].contains c.toNat

/-- The distance between two tab stops. -/
def tabWidth : Nat := 8

/-- The parts of a line between its tabs, from a column on. A tab is one space and as many more as
lead to the next tab stop. -/
def joinParts (column : Nat) : List (List Char) → List Char
  | [] => []
  | [part] => part
  | part :: parts =>
    let spaced := part ++ [' ']
    let column := column + Text.textWidth spaced
    let fill := (tabWidth - column % tabWidth) % tabWidth
    spaced ++ List.replicate fill ' ' ++ joinParts (column + fill) parts

/-- A line with its tabs filled up by spaces. -/
def expandTabs (line : List Char) : List Char := joinParts 0 (line.splitOnP (· == '\t'))

/-- A text with emoji in place of their names and without the characters that are dropped. -/
def printedText (s : String) : List Char :=
  (Text.replaceEmoji s.toList).filter fun c => !isDropped c

/-- The lines of a text, between its line feeds. -/
def textLines (s : List Char) : List (List Char) := s.splitOnP (· == '\n')

/-- A text as a reader sees it. -/
def cleanText (s : String) : String :=
  String.ofList (List.intercalate ['\n'] ((textLines (printedText s)).map expandTabs))

/-- Whether a character is one of the parameters of a style sequence. -/
def isStyleParameter (c : Char) : Bool := c.isDigit || c == ';' || c == '?'

/-- The text behind a style sequence of which the escape character was read: a bracket, parameters,
and a letter. -/
def afterStyle? : List Char → Option (List Char)
  | '[' :: s =>
    match s.dropWhile isStyleParameter with
    | c :: rest => if c.isAlpha then some rest else none
    | [] => none
  | _ => none

theorem length_afterStyle?_lt {s rest : List Char} (h : afterStyle? s = some rest) :
    rest.length < s.length := by
  unfold afterStyle? at h
  split at h
  · next s =>
    have := (List.dropWhile_sublist (l := s) isStyleParameter).length_le
    split at h
    · next heq =>
      rw [heq] at this
      split at h
      · cases h
        simp only [List.length_cons] at this ⊢
        omega
      · cases h
    · cases h
  · cases h

/-- A text without its style sequences. -/
def withoutStyles : List Char → List Char
  | [] => []
  | c :: s =>
    if c = '\x1b' then
      match _h : afterStyle? s with
      | some rest => withoutStyles rest
      | none => c :: withoutStyles s
    else c :: withoutStyles s
termination_by s => s.length
decreasing_by
  · have := length_afterStyle?_lt _h
    simp only [List.length_cons]
    omega
  all_goals simp

/-- Whether a text has no opening bracket, so that no part of it is taken for a style. -/
def isBracketFree (s : String) : Bool := !s.toList.contains '['

/-- A message that is free of brackets between the tags of a style. The tags are not printed.
Backslashes in front of the closing tag escape each other, and one that is left over escapes the
tag, which is then printed. -/
def styled (style message : String) : String :=
  let backslashes := (message.toList.reverse.takeWhile (· == '\\')).length
  let body := message.toList.take (message.length - backslashes)
  String.ofList (body ++ List.replicate (backslashes / 2) '\\') ++
    if backslashes % 2 = 1 then "[/" ++ style ++ "]" else ""

/-! ## Reports -/

/-- What was printed on the standard output and on the standard error. -/
structure Report where
  out : String
  err : String
  deriving DecidableEq, Repr

namespace Report

/-- The report of a command that prints nothing. -/
def empty : Report := ⟨"", ""⟩

/-- Adds a text to the output as it is. -/
def write (r : Report) (s : String) : Report := { r with out := r.out ++ s }

/-- Adds a line for other programs to the output. -/
def echo (r : Report) (line : String) : Report :=
  r.write (String.ofList (withoutStyles line.toList) ++ "\n")

/-- Adds a message about a wrong command line to the error output. -/
def echoError (r : Report) (text : String) : Report :=
  { r with err := r.err ++ String.ofList (withoutStyles text.toList) ++ "\n" }

/-- Adds a line for a reader to the output. -/
def say (r : Report) (line : String) : Report := r.write (cleanText line ++ "\n")

/-- Adds a line for a reader to the error output. -/
def note (r : Report) (line : String) : Report :=
  { r with err := r.err ++ cleanText line ++ "\n" }

/-! ### Messages

The texts in them are taken to be free of brackets. -/

/-- Adds a remark to the output. -/
def info (r : Report) (message : String) : Report := r.say (styled "info" message)

/-- Adds the message of a success to the output. -/
def success (r : Report) (message : String) : Report := r.say (styled "success" message)

/-- Adds a warning. -/
def warn (r : Report) (message : String) : Report := r.note ("Warning: " ++ message)

/-- Adds an error message. -/
def fail (r : Report) (message : String) : Report := r.note ("Error: " ++ message)

/-- Adds a hint below an error message. -/
def hint (r : Report) (message : String) : Report := r.note ("  Hint: " ++ message)

/-! ### Several lines -/

/-- Adds further lines, each in the same way. -/
def addAll {α : Type} (r : Report) (add : Report → α → Report) (items : List α) : Report :=
  items.foldl add r

end Report

end TagSearch
