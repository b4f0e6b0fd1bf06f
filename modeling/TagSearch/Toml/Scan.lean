import TagSearch.Text.Hex
import TagSearch.Toml.Value

/-!
# Keys, texts and comments

The parts of a settings document that hold free text. Control characters are refused in all of them,
but for the tab, and in texts over several lines the line feed.

* `readBasic` and `readLiteral` read what follows the opening quotes of a text.
* `readKey` reads a key of one or more parts.
* `skipComment` passes over a comment.
-/

namespace TagSearch.Toml

/-! ## Characters -/

/-- The control characters of ASCII. -/
def isControl (c : Char) : Bool := c.toNat < 32 || c.toNat == 127

/-- The characters that may stand in a text, over several lines if `long`. -/
def isPlain (long : Bool) (c : Char) : Bool := !isControl c || c == '\t' || (long && c == '\n')

/-- The characters between the parts of a line. -/
def isSpace (c : Char) : Bool := c == ' ' || c == '\t'

/-- The characters of a key without quotes. -/
def isBareKey (c : Char) : Bool := c.isAlphanum || c == '-' || c == '_'

/-- The text after its leading spaces. -/
def skipSpaces (s : List Char) : List Char := s.dropWhile isSpace

/-- The text with each carriage return and line feed made a line feed. -/
def unifyLines : List Char → List Char
  | '\r' :: '\n' :: s => '\n' :: unifyLines s
  | c :: s => c :: unifyLines s
  | [] => []

/-- The text after a comment, if it starts with one. -/
def skipComment : List Char → Except Error (List Char)
  | '#' :: s =>
    if (s.takeWhile (· != '\n')).all (isPlain false) then .ok (s.dropWhile (· != '\n'))
    else .error .malformed
  | s => .ok s

/-! ## Escapes -/

/-- The character that a letter behind a backslash stands for. -/
def escaped? (c : Char) : Option Char :=
  [('b', '\x08'), ('t', '\t'), ('n', '\n'), ('f', '\x0c'), ('r', '\r'), ('"', '"'),
    ('\\', '\\')].lookup c

/-- The character whose number is given by digits. -/
def charOfHex? (ds : List Char) : Option Char := do
  let values ← ds.mapM Text.hexValue?
  let n := values.foldl (fun n d => 16 * n + d) 0
  if h : n.isValidChar then return Char.ofNatAux n h else none

/-- Reads a character from exactly `width` digits. -/
def readHex (width : Nat) (s : List Char) : Except Error (List Char × List Char) :=
  match charOfHex? (s.take width) with
  | some d => if width ≤ s.length then .ok ([d], s.drop width) else .error .malformed
  | none => .error .malformed

/-- The text after spaces and line feeds. -/
def skipBreak (s : List Char) : List Char := s.dropWhile fun c => isSpace c || c == '\n'

/-- Reads what follows a backslash: a character, or in a long text a break that is left out. -/
def readEscape (long : Bool) : List Char → Except Error (List Char × List Char)
  | [] => .error .malformed
  | c :: s =>
    if c = 'u' then readHex 4 s
    else if c = 'U' then readHex 8 s
    else if long && c == '\n' then .ok ([], skipBreak s)
    else if long && isSpace c then
      match skipSpaces s with
      | [] => .ok ([], [])
      | '\n' :: r => .ok ([], skipBreak r)
      | _ => .error .malformed
    else
      match escaped? c with
      | some d => .ok ([d], s)
      | none => .error .malformed

theorem length_dropWhile_le {α : Type} (p : α → Bool) (s : List α) :
    (s.dropWhile p).length ≤ s.length := (List.dropWhile_sublist p).length_le

theorem length_of_readHex {width : Nat} {s t r : List Char}
    (h : readHex width s = .ok (t, r)) : r.length ≤ s.length := by
  simp only [readHex] at h
  split at h
  · split at h
    · cases h; simp
    · cases h
  · cases h

theorem length_of_readEscape {long : Bool} {s t r : List Char}
    (h : readEscape long s = .ok (t, r)) : r.length ≤ s.length := by
  cases s with
  | nil => simp [readEscape] at h
  | cons c s =>
    simp only [readEscape] at h
    split at h
    · have := length_of_readHex h; simp only [List.length_cons]; omega
    split at h
    · have := length_of_readHex h; simp only [List.length_cons]; omega
    split at h
    · cases h
      have := length_dropWhile_le (fun c => isSpace c || c == '\n') s
      simp only [skipBreak, List.length_cons]; omega
    split at h
    · have hs := length_dropWhile_le isSpace s
      split at h
      · cases h; simp
      · next r' hr =>
        cases h
        have := length_dropWhile_le (fun c => isSpace c || c == '\n') r'
        rw [skipSpaces] at hr
        rw [hr, List.length_cons] at hs
        simp only [skipBreak, List.length_cons]; omega
      · cases h
    · split at h
      · cases h; simp
      · cases h

/-! ## Texts -/

/-- Reads a text with escapes after its opening quote. -/
def readBasic (s : List Char) : Except Error (List Char × List Char) :=
  match s with
  | [] => .error .malformed
  | '"' :: s => .ok ([], s)
  | '\\' :: s =>
    match _h : readEscape false s with
    | .error e => .error e
    | .ok (t, r) => (readBasic r).map fun (u, rest) => (t ++ u, rest)
  | c :: s =>
    if isPlain false c then (readBasic s).map fun (u, rest) => (c :: u, rest)
    else .error .malformed
termination_by s.length
decreasing_by
  · have := length_of_readEscape ‹_›; simp only [List.length_cons]; omega
  · simp

/-- Reads a long text with escapes after its opening quotes. -/
def readLongBasic (s : List Char) : Except Error (List Char × List Char) :=
  match s with
  | [] => .error .malformed
  | '"' :: '"' :: '"' :: s => .ok ([], s)
  | '\\' :: s =>
    match _h : readEscape true s with
    | .error e => .error e
    | .ok (t, r) => (readLongBasic r).map fun (u, rest) => (t ++ u, rest)
  | c :: s =>
    if isPlain true c then (readLongBasic s).map fun (u, rest) => (c :: u, rest)
    else .error .malformed
termination_by s.length
decreasing_by
  · have := length_of_readEscape ‹_›; simp only [List.length_cons]; omega
  · simp

/-- Reads a text without escapes after its opening quote. -/
def readLiteral : List Char → Except Error (List Char × List Char)
  | [] => .error .malformed
  | '\'' :: s => .ok ([], s)
  | c :: s =>
    if isPlain false c then (readLiteral s).map fun (u, rest) => (c :: u, rest)
    else .error .malformed

/-- Reads a long text without escapes after its opening quotes. -/
def readLongLiteral : List Char → Except Error (List Char × List Char)
  | [] => .error .malformed
  | '\'' :: '\'' :: '\'' :: s => .ok ([], s)
  | c :: s =>
    if isPlain true c then (readLongLiteral s).map fun (u, rest) => (c :: u, rest)
    else .error .malformed

/-- A long text with up to two further quotes that stand before the closing ones. -/
def extraQuotes (q : Char) : List Char × List Char → List Char × List Char
  | (t, c :: d :: s) =>
    if c = q then if d = q then (t ++ [q, q], s) else (t ++ [q], d :: s) else (t, c :: d :: s)
  | (t, [c]) => if c = q then (t ++ [q], []) else (t, [c])
  | (t, []) => (t, [])

/-- The text after a line feed that it starts with. -/
def dropLineFeed : List Char → List Char
  | '\n' :: s => s
  | s => s

/-- Reads a text with its quotes, of any of the four sorts. -/
def readText : List Char → Except Error (List Char × List Char)
  | '"' :: '"' :: '"' :: s => (readLongBasic (dropLineFeed s)).map (extraQuotes '"')
  | '\'' :: '\'' :: '\'' :: s => (readLongLiteral (dropLineFeed s)).map (extraQuotes '\'')
  | '"' :: s => readBasic s
  | '\'' :: s => readLiteral s
  | _ => .error .malformed

/-! ## Keys -/

/-- Reads one part of a key, and the spaces after it. -/
def readKeyPart (s : List Char) : Except Error (String × List Char) :=
  let part : Except Error (List Char × List Char) :=
    match s with
    | '"' :: r => readBasic r
    | '\'' :: r => readLiteral r
    | _ =>
      if (s.takeWhile isBareKey).isEmpty then .error .malformed
      else .ok (s.takeWhile isBareKey, s.dropWhile isBareKey)
  part.map fun (t, r) => (String.ofList t, skipSpaces r)

/-- Reads the parts of a key that are joined by points, at most `fuel` ones. -/
def readKeyParts : (fuel : Nat) → List Char → Except Error (List String × List Char)
  | 0, _ => .error .malformed
  | fuel + 1, s => do
    let (part, r) ← readKeyPart s
    match r with
    | '.' :: r =>
      let (parts, r) ← readKeyParts fuel (skipSpaces r)
      return (part :: parts, r)
    | r => return ([part], r)

/-- Reads a key and the spaces after it. A key has no more parts than the text has characters. -/
def readKey (s : List Char) : Except Error (List String × List Char) :=
  readKeyParts (s.length + 1) s

end TagSearch.Toml
