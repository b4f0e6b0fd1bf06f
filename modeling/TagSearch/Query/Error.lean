import TagSearch.Expr.Basic

/-!
# Query errors

Why a text is no query. Every cause but a blank term has a position, the number of characters in
front of the place it points at.

* `QueryError.message` words the error, `Fault.reason` the cause alone.
-/

namespace TagSearch

/-- Why a text does not follow the grammar of queries. -/
inductive Fault where
  /-- The text is blank. -/
  | emptyQuery
  /-- The text ends where a term is still required. -/
  | endOfQuery
  /-- A blank character that separates nothing. -/
  | character (c : Char)
  /-- A piece that cannot stand where it stands. -/
  | piece (text : String)
  /-- A key without a value. -/
  | missingValue (key : String)
  deriving DecidableEq, Repr

/-- Why a text is no query. -/
inductive QueryError where
  /-- The text does not follow the grammar. -/
  | malformed (position : Nat) (fault : Fault)
  /-- A key other than the known one. -/
  | unknownKey (position : Nat) (key : String)
  /-- A term of blank text. -/
  | blankTerm (t : Term)
  deriving DecidableEq, Repr

/-- The wording of a fault. -/
def Fault.reason : Fault → String
  | .emptyQuery => "empty query"
  | .endOfQuery => "unexpected end of query"
  | .character c => "unexpected character " ++ Text.display c.toString
  | .piece text => "unexpected " ++ Text.display text
  | .missingValue key => "missing value after '" ++ key ++ ":'"

namespace QueryError

/-- Where a query goes wrong, if at one place. -/
def position? : QueryError → Option Nat
  | .malformed position _ => some position
  | .unknownKey position _ => some position
  | .blankTerm _ => none

/-- The wording of the cause, without the position. -/
def reason : QueryError → String
  | .malformed _ fault => fault.reason
  | .unknownKey _ key => "unknown key '" ++ key ++ "'"
  | .blankTerm t => t.blankMessage

/-- The wording of an error. -/
def message (e : QueryError) : String :=
  match e.position? with
  | some position => "Invalid query at position " ++ toString position ++ ": " ++ e.reason
  | none => e.reason

end QueryError

end TagSearch
