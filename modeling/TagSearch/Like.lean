/-!
# LIKE patterns

A pattern in which `%` stands for any run of characters, `_` for one character, and an escape
character takes its role from the character after it. Letters of ASCII match in either case.

* `Like.accepts` tells whether a pattern matches a text, `Like.acceptsText` reads both first.
* `Like.escape` writes a text so that it matches literally, and `PathMatch.pattern` adds the
  wildcards of a mode.
-/

namespace TagSearch

/-- How a path pattern relates to the paths that it accepts. -/
inductive PathMatch where
  /-- The pattern is the whole path. -/
  | whole
  /-- The path starts with the pattern. -/
  | start
  /-- The pattern stands anywhere in the path. -/
  | anywhere
  deriving DecidableEq, Repr

namespace PathMatch

/-- The word for a mode. -/
def name : PathMatch → String
  | .whole => "exact"
  | .start => "prefix"
  | .anywhere => "contains"

/-- The modes in the order in which they are listed. -/
def all : List PathMatch := [.whole, .start, .anywhere]

/-- The mode of a word. -/
def ofName? (word : String) : Option PathMatch := all.find? (·.name == word)

@[simp] theorem ofName?_name (m : PathMatch) : ofName? m.name = some m := by cases m <;> decide

end PathMatch

namespace Like

/-- The escape character of the patterns that are matched against paths. -/
def escapeChar : Char := '\\'

/-- The character in place of one that no text interchanges, as far as patterns can tell: U+FFFE and
U+FFFF are read as the replacement character. -/
def readable (c : Char) : Char := if c = '\uFFFE' ∨ c = '\uFFFF' then '\uFFFD' else c

/-- Whether two characters are equal up to the case of ASCII letters. -/
def sameLetter (a b : Char) : Bool := (readable a).toLower == (readable b).toLower

/-- A text with every character as it is compared. -/
def folded (s : List Char) : List Char := s.map fun c => (readable c).toLower

/-- Whether a pattern with the escape character `esc` matches a text. An escape character at the
end of the pattern matches nothing. -/
def accepts (esc : Char) : (pattern text : List Char) → Bool
  | [], text => text.isEmpty
  | p :: pattern, text =>
    if p = esc then
      match pattern, text with
      | q :: pattern, c :: text => sameLetter q c && accepts esc pattern text
      | _, _ => false
    else if p = '%' then
      match text with
      | [] => accepts esc pattern []
      | c :: text => accepts esc pattern (c :: text) || accepts esc (p :: pattern) text
    else
      match text with
      | [] => false
      | c :: text => (p = '_' || sameLetter p c) && accepts esc pattern text
termination_by pattern text => pattern.length + text.length

/-- A text with the escape character in front of itself and of the wildcards. -/
def escape (esc : Char) (s : List Char) : List Char :=
  s.flatMap fun c => if c = esc || c = '%' || c = '_' then [esc, c] else [c]

/-- The part of a text that is compared: what stands in front of its first NUL. -/
def visible (s : List Char) : List Char := s.takeWhile (· != '\x00')

/-- Whether a pattern matches a path. -/
def acceptsPath (pattern path : String) : Bool :=
  accepts escapeChar (visible pattern.toList) (visible path.toList)

/-- A text as patterns can tell it: each character in front of its first NUL as it is read. -/
def compared (s : String) : List Char := (visible s.toList).map readable

/-- Whether a pattern with an escape character matches a text. All three are read in the same way. -/
def acceptsText (esc : Char) (pattern text : String) : Bool :=
  accepts (readable esc) (compared pattern) (compared text)

end Like

/-- The pattern that a mode makes of a text. -/
def PathMatch.pattern (m : PathMatch) (text : String) : String :=
  let escaped := Like.escape Like.escapeChar text.toList
  match m with
  | .whole => String.ofList escaped
  | .start => String.ofList (escaped ++ ['%'])
  | .anywhere => String.ofList ('%' :: escaped ++ ['%'])

end TagSearch
