import TagSearch.Text.Blank

/-!
# Lexemes of a query

A query is cut into negation signs, bars, and atoms. An atom is a longest run of characters that
are neither blank nor a bar and whose first is no minus sign; it is keyed if it starts with an
identifier and a colon, and a word otherwise. Spacing separates lexemes and is dropped; any other
blank character outside an atom is kept as a stray character.

* `lexemes` cuts a text, with the position of each lexeme.
* `Atom.text_ofRun`: an atom is written as the run it was made from.
-/

namespace TagSearch

/-- A run of a query that stands for a term. -/
inductive Atom where
  /-- A run without a key. -/
  | word (text : String)
  /-- An identifier, a colon, and the rest of the run. -/
  | keyed (key value : String)
  deriving DecidableEq, Repr

/-- A piece of a query. -/
inductive Token where
  /-- The negation sign. -/
  | minus
  /-- The sign between alternatives. -/
  | bar
  /-- A term. -/
  | atom (a : Atom)
  /-- A blank character that is no spacing. -/
  | stray (c : Char)
  deriving DecidableEq, Repr

/-- A piece of a query and the number of characters in front of it. -/
structure Lexeme where
  position : Nat
  token : Token
  deriving DecidableEq, Repr

/-- The characters that continue an atom. -/
def inRun (c : Char) : Bool := !Text.isBlank c && c != '|'

/-- The letters of ASCII, which start a key. -/
def isKeyStart (c : Char) : Bool := c.isAlpha

/-- The letters and digits of ASCII and the underscore, which continue a key. -/
def isKeyChar (c : Char) : Bool := c.isAlphanum || c == '_'

namespace Atom

/-- The atom that a run of characters stands for. -/
def ofRun (run : List Char) : Atom :=
  match run.takeWhile isKeyChar, run.dropWhile isKeyChar with
  | c :: key, ':' :: value =>
    if isKeyStart c then .keyed (String.ofList (c :: key)) (String.ofList value)
    else .word (String.ofList run)
  | _, _ => .word (String.ofList run)

/-- The characters of an atom. -/
def text : Atom → String
  | .word text => text
  | .keyed key value => key ++ ":" ++ value

theorem text_ofRun (run : List Char) : (ofRun run).text = String.ofList run := by
  have split := List.takeWhile_append_dropWhile (p := isKeyChar) (l := run)
  unfold ofRun
  split
  · next c key value hk hv =>
    split
    · rw [hk, hv] at split
      simp [text, ← split, String.append_assoc]
    · rfl
  · rfl

end Atom

/-- The characters of a piece. -/
def Token.text : Token → String
  | .minus => "-"
  | .bar => "|"
  | .atom a => a.text
  | .stray c => c.toString

/-- The lexemes of a text that follows `position` characters. -/
def lexemes (position : Nat) : List Char → List Lexeme
  | [] => []
  | c :: rest =>
    if Text.isSpacing c then lexemes (position + 1) rest
    else if Text.isBlank c then ⟨position, .stray c⟩ :: lexemes (position + 1) rest
    else if c = '|' then ⟨position, .bar⟩ :: lexemes (position + 1) rest
    else if c = '-' then ⟨position, .minus⟩ :: lexemes (position + 1) rest
    else
      let run := rest.takeWhile inRun
      ⟨position, .atom (Atom.ofRun (c :: run))⟩ ::
        lexemes (position + 1 + run.length) (rest.dropWhile inRun)
termination_by text => text.length
decreasing_by
  all_goals simp only [List.length_cons]
  all_goals first
    | omega
    | exact Nat.lt_succ_of_le (List.dropWhile_sublist _).length_le

end TagSearch
