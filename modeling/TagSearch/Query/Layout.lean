import TagSearch.Expr.Balanced
import TagSearch.Expr.Basic

/-!
# Layouts of queries

How a query may be written: alternatives with a bar between any two of them, the literals of an
alternative next to each other, and a minus sign in front of a negated atom. Spacing may stand
around everything but the parts of an atom, and must stand between an atom and the literal behind
it.

* `QueryLayout` relates alternatives to the texts that they may be written as.
* `alternativesExpr` is the expression that alternatives stand for.
-/

namespace TagSearch

/-- A term that may be negated. -/
structure SignedTerm where
  negated : Bool
  term : Term
  deriving DecidableEq, Repr

/-- The expression that a signed term stands for. -/
def SignedTerm.toExpr (l : SignedTerm) : Expr :=
  if l.negated then .not (.term l.term) else .term l.term

/-- The expression that alternatives stand for: their conjunctions joined by `or`, both in balanced
form. -/
def alternativesExpr (a : NonemptyList (NonemptyList SignedTerm)) : Expr :=
  (a.map fun l => (l.map SignedTerm.toExpr).balanced .and).balanced .or

/-! ## Parts of a text -/

/-- Spacing, which may be empty. -/
def IsGap (s : List Char) : Prop := ∀ c ∈ s, Text.isSpacing c = true

/-- Characters that may stand in an atom. -/
def IsRun (s : List Char) : Prop := ∀ c ∈ s, Text.isBlank c = false ∧ c ≠ '|'

/-- An identifier: a letter, then letters, digits and underscores, all of ASCII. -/
def IsKey (s : List Char) : Prop :=
  ∃ c rest, s = c :: rest ∧ c.isAlpha = true ∧ ∀ d ∈ rest, d.isAlphanum = true ∨ d = '_'

/-- A text that starts with an identifier and a colon. -/
def StartsWithKey (s : List Char) : Prop := ∃ key value, IsKey key ∧ s = key ++ ':' :: value

/-! ## Layouts -/

/-- The texts of a term. -/
inductive AtomLayout : Term → List Char → Prop
  /-- A tag is written as it is. -/
  | tag {name : List Char} (run : IsRun name) (ne : name ≠ []) (plain : name.head? ≠ some '-')
      (keyless : ¬ StartsWithKey name) : AtomLayout (.tag (String.ofList name)) name
  /-- A pattern is written behind its key, which is in letters of either case, and a colon. -/
  | inPath {key pattern : List Char} (named : key.map Char.toLower = ['i', 'n', 'p', 'a', 't', 'h'])
      (run : IsRun pattern) (ne : pattern ≠ []) :
      AtomLayout (.inPath (String.ofList pattern)) (key ++ ':' :: pattern)

/-- The texts of a signed term. -/
inductive LiteralLayout : SignedTerm → List Char → Prop
  | plain {t : Term} {s : List Char} (atom : AtomLayout t s) : LiteralLayout ⟨false, t⟩ s
  | negated {t : Term} {gap s : List Char} (isGap : IsGap gap) (atom : AtomLayout t s) :
      LiteralLayout ⟨true, t⟩ ('-' :: gap ++ s)

/-- The texts of an alternative. -/
inductive AlternativeLayout : NonemptyList SignedTerm → List Char → Prop
  | single {l : SignedTerm} {s : List Char} (literal : LiteralLayout l s) :
      AlternativeLayout (.single l) s
  | push {l : SignedTerm} {rest : NonemptyList SignedTerm} {s gap t : List Char}
      (literal : LiteralLayout l s) (isGap : IsGap gap) (ne : gap ≠ [])
      (others : AlternativeLayout rest t) : AlternativeLayout (rest.push l) (s ++ gap ++ t)

/-- The texts of a query. -/
inductive QueryLayout : NonemptyList (NonemptyList SignedTerm) → List Char → Prop
  | single {a : NonemptyList SignedTerm} {lead s trail : List Char} (leading : IsGap lead)
      (alternative : AlternativeLayout a s) (trailing : IsGap trail) :
      QueryLayout (.single a) (lead ++ s ++ trail)
  | push {a : NonemptyList SignedTerm} {rest : NonemptyList (NonemptyList SignedTerm)}
      {lead s trail t : List Char} (leading : IsGap lead) (alternative : AlternativeLayout a s)
      (trailing : IsGap trail) (others : QueryLayout rest t) :
      QueryLayout (rest.push a) (lead ++ s ++ trail ++ '|' :: t)

end TagSearch
