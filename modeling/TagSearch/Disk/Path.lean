/-!
# Path texts

A path text is an anchor, which tells where the path starts, and the names that lie between its
slashes. Empty names and the name `.` mean nothing and are dropped; the name `..` is kept.

* `PathText.ofText` reads a text, `PathText.toText` writes the shortest text of a path.
* `PathText.relativeTo?` is the part of a path below another one, if it lies below.
-/

namespace TagSearch

/-- Where a path starts. -/
inductive Anchor where
  /-- At the place that the path is used from. -/
  | none
  /-- At the top. -/
  | top
  /-- At the place of paths with exactly two leading slashes, which is a top of its own. -/
  | doubleTop
  deriving DecidableEq, Repr

/-- A path as written: where it starts, and the names on the way. -/
structure PathText where
  anchor : Anchor
  parts : List String
  deriving DecidableEq, Repr

/-- The pieces of a text between its slashes. -/
def pieces : List Char → List (List Char)
  | [] => [[]]
  | c :: rest =>
    match pieces rest with
    | [] => [[]]
    | piece :: others => if c = '/' then [] :: piece :: others else (c :: piece) :: others

/-- The names of a text: its pieces without the empty ones and those that are a single dot. -/
def pathNames (s : List Char) : List String :=
  ((pieces s).filter fun p => p != [] && p != ['.']).map String.ofList

/-- The anchor of a text, by the number of its leading slashes. -/
def Anchor.ofText : List Char → Anchor
  | '/' :: '/' :: '/' :: _ => .top
  | '/' :: '/' :: _ => .doubleTop
  | '/' :: _ => .top
  | _ => .none

/-- Names joined by slashes, or a dot if there is none. -/
def joinNames (names : List String) : String :=
  if names.isEmpty then "." else "/".intercalate names

namespace PathText

/-- The path that a text stands for. -/
def ofText (s : String) : PathText := ⟨.ofText s.toList, pathNames s.toList⟩

/-- The text of a path. -/
def toText (p : PathText) : String :=
  match p.anchor with
  | .none => joinNames p.parts
  | .top => "/" ++ "/".intercalate p.parts
  | .doubleTop => "//" ++ "/".intercalate p.parts

/-- Whether a path starts at a top. -/
def isAbsolute (p : PathText) : Bool := p.anchor != .none

/-- The last name, or the empty text if there is none. -/
def name (p : PathText) : String := p.parts.getLast?.getD ""

/-- The path without its last name. -/
def parent (p : PathText) : PathText := { p with parts := p.parts.dropLast }

/-- The path `p` used from `base`. -/
def join (base p : PathText) : PathText :=
  if p.isAbsolute then p else ⟨base.anchor, base.parts ++ p.parts⟩

/-- The names below `root`, if a path starts where `root` does and goes through it. -/
def relativeTo? (p root : PathText) : Option (List String) :=
  if p.anchor = root.anchor then
    if root.parts.isPrefixOf p.parts then some (p.parts.drop root.parts.length) else none
  else none

end PathText

/-- The text of the part of one path text below another, if it lies below. -/
def relativePath? (path root : String) : Option String :=
  ((PathText.ofText path).relativeTo? (.ofText root)).map joinNames

end TagSearch
