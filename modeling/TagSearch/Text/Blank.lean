/-!
# Blank characters

Two classes of white space. A blank character ends a term of a query and is trimmed from both ends
of a tag; the five spacing characters may also stand between the terms of a query.

* `isBlank_of_isSpacing`: every spacing character is blank.
* `trim` removes blank characters from both ends of a text.
-/

namespace TagSearch.Text

/-- The blank characters: the white space of Unicode and the four information separators. -/
def isBlank (c : Char) : Bool :=
  let n := c.toNat
  (9 ≤ n && n ≤ 13) || (28 ≤ n && n ≤ 32) || n == 0x85 || n == 0xA0 || n == 0x1680 ||
    (0x2000 ≤ n && n ≤ 0x200A) || n == 0x2028 || n == 0x2029 || n == 0x202F || n == 0x205F ||
    n == 0x3000

/-- The characters that may separate terms: space, tab, line feed, form feed, carriage return. -/
def isSpacing (c : Char) : Bool :=
  c == ' ' || c == '\t' || c == '\n' || c == '\x0c' || c == '\r'

theorem isBlank_of_isSpacing {c : Char} (h : isSpacing c = true) : isBlank c = true := by
  simp only [isSpacing, Bool.or_eq_true, beq_iff_eq] at h
  rcases h with (((rfl | rfl) | rfl) | rfl) | rfl <;> decide

/-- A text is blank if it holds blank characters only; the empty text is. -/
def isBlankText (s : String) : Bool := s.toList.all isBlank

/-- A list without the blank characters at its end. -/
def dropBlankEnd (s : List Char) : List Char := (s.reverse.dropWhile isBlank).reverse

/-- A text without the blank characters at its two ends. -/
def trim (s : String) : String := String.ofList (dropBlankEnd (s.toList.dropWhile isBlank))

end TagSearch.Text
