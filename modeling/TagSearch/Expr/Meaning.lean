import TagSearch.Expr.Basic
import TagSearch.Like

/-!
# The meaning of expressions

What an expression says about a file, given by the tags that the file carries and its path. A tag
holds of a file that carries it, a pattern of a path that it matches in the chosen mode up to the
case of ASCII letters, and the connectives are those of logic.

* `PathMatch.Matches` relates patterns to paths, `Expr.Accepts` expressions to files.
* `Expr.Holds` is the truth of an expression for any truth of its terms.
* `Term.readable` is a term as patterns are read, with two characters that count as a third.
-/

namespace TagSearch

/-- A text with the letters of ASCII in lower case. -/
def foldCase (s : String) : List Char := s.toList.map Char.toLower

/-- How a mode relates a pattern to a path: equal to it, at its start, or anywhere in it. -/
def PathMatch.Relates {α : Type} (m : PathMatch) (pattern path : List α) : Prop :=
  match m with
  | .whole => path = pattern
  | .start => pattern <+: path
  | .anywhere => pattern <:+: path

/-- A pattern matches a path up to the case of ASCII letters. -/
def PathMatch.Matches (m : PathMatch) (pattern path : String) : Prop :=
  m.Relates (foldCase pattern) (foldCase path)

/-- A term holds of a file. -/
def Term.Accepts (m : PathMatch) (carries : String → Prop) (path : String) : Term → Prop
  | .tag name => carries name
  | .inPath pattern => m.Matches pattern path

/-- A boolean combination of the truth of terms. -/
def Expr.Holds (leaf : Term → Prop) : Expr → Prop
  | .term t => leaf t
  | .not e => ¬ e.Holds leaf
  | .and l r => l.Holds leaf ∧ r.Holds leaf
  | .or l r => l.Holds leaf ∨ r.Holds leaf

/-- An expression holds of a file. -/
def Expr.Accepts (m : PathMatch) (carries : String → Prop) (path : String) (e : Expr) : Prop :=
  e.Holds (Term.Accepts m carries path)

theorem Expr.holds_congr {p q : Term → Prop} {e : Expr} (h : ∀ t ∈ e.terms, (p t ↔ q t)) :
    e.Holds p ↔ e.Holds q := by
  induction e with
  | term t => exact h t (by simp [terms])
  | not e ih => exact not_congr (ih h)
  | and l r ihl ihr =>
    exact and_congr (ihl fun t ht => h t (by simp [terms, ht]))
      (ihr fun t ht => h t (by simp [terms, ht]))
  | or l r ihl ihr =>
    exact or_congr (ihl fun t ht => h t (by simp [terms, ht]))
      (ihr fun t ht => h t (by simp [terms, ht]))

/-! ## Texts as patterns are read -/

/-- A text as it is read in a comparison with a pattern. -/
def readableText (s : String) : String := String.ofList (s.toList.map Like.readable)

/-- A term whose pattern is as it is read in a comparison with a path. -/
def Term.readable : Term → Term
  | .tag name => .tag name
  | .inPath pattern => .inPath (readableText pattern)

theorem foldCase_readableText (s : String) :
    foldCase (readableText s) = Like.folded s.toList := by
  simp [foldCase, readableText, Like.folded]

end TagSearch
