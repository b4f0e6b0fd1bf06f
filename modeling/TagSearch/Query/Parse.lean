import TagSearch.Expr.Balanced
import TagSearch.Query.Error
import TagSearch.Query.Lexeme

/-!
# Reading queries

A query is a list of alternatives, each a list of literals, each an atom that may be negated; no
list is empty. The alternatives are joined by `or` and the literals of each by `and`, in balanced
form and in the order of the text.

* `readTerm` and `readMore` check the lexemes against the grammar and stop at the first one that
  cannot follow those before it.
* `parse` reads a query. Once the grammar is satisfied the leftmost bad key is reported.
-/

namespace TagSearch

/-- A term of a query as written: whether it is negated, where its atom starts, and the atom. -/
structure Literal where
  negated : Bool
  position : Nat
  atom : Atom
  deriving DecidableEq, Repr

/-- The literals of a query, alternative by alternative. -/
abbrev Alternatives := NonemptyList (NonemptyList Literal)

/-- A literal put in front of the first alternative. -/
def Alternatives.pushFirst (l : Literal) (a : Alternatives) : Alternatives :=
  ⟨a.head.push l, a.tail⟩

mutual

/-- Reads alternatives from a place where a term is required, after a negation sign if `negated`.
The error is the lexeme that cannot stand where it stands, or none if the text ends too early. -/
def readTerm (negated : Bool) : List Lexeme → Except (Option Lexeme) Alternatives
  | [] => .error none
  | x :: rest =>
    match x.token with
    | .atom a => readMore ⟨negated, x.position, a⟩ rest
    | .minus => if negated then .error (some x) else readTerm true rest
    | _ => .error (some x)

/-- Reads what follows a literal, which is put in front of the first alternative. -/
def readMore (l : Literal) : List Lexeme → Except (Option Lexeme) Alternatives
  | [] => .ok (.single (.single l))
  | x :: rest =>
    match x.token with
    | .atom a => (readMore ⟨false, x.position, a⟩ rest).map (Alternatives.pushFirst l)
    | .minus => (readTerm true rest).map (Alternatives.pushFirst l)
    | .bar => (readTerm false rest).map (NonemptyList.push (.single l))
    | .stray _ => .error (some x)

end

/-- The fault of a piece that cannot stand where it stands. -/
def Token.fault : Token → Fault
  | .stray c => .character c
  | t => .piece t.text

/-- The alternatives of a text. -/
def Alternatives.ofText (text : List Char) : Except QueryError Alternatives :=
  (readTerm false (lexemes 0 text)).mapError fun
    | none => .malformed text.length .endOfQuery
    | some x => .malformed x.position x.token.fault

/-- The key of path patterns. -/
def pathKey : String := "inpath"

namespace Literal

/-- The term that a literal stands for. -/
def term? (l : Literal) : Except QueryError Term :=
  match l.atom with
  | .word text => (Term.tag text).check.mapError .blankTerm
  | .keyed key value =>
    if key.toLower ≠ pathKey then .error (.unknownKey l.position key)
    else if value.isEmpty then
      .error (.malformed (l.position + key.length + 1) (.missingValue key))
    else (Term.inPath value).check.mapError .blankTerm

/-- The expression that a literal stands for. -/
def expr? (l : Literal) : Except QueryError Expr :=
  l.term?.map fun t => if l.negated then .not (.term t) else .term t

end Literal

/-- The expression that one alternative stands for. -/
def alternativeExpr? (literals : NonemptyList Literal) : Except QueryError Expr :=
  (literals.mapExcept Literal.expr?).map (NonemptyList.balanced .and)

/-- The expression that alternatives stand for. -/
def Alternatives.expr? (a : Alternatives) : Except QueryError Expr :=
  (a.mapExcept alternativeExpr?).map (NonemptyList.balanced .or)

/-- The expression that a query stands for. -/
def parse (query : String) : Except QueryError Expr := do
  if Text.isBlankText query then .error (.malformed 0 .emptyQuery)
  else (← Alternatives.ofText query.toList).expr?

end TagSearch
