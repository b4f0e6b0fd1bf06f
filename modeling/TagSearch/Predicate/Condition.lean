import TagSearch.Catalog.TokenTable
import TagSearch.Like
import TagSearch.Predicate.Token

/-!
# Conditions

The meaning of the text of a condition. `NOT` binds tighter than `AND`, and `AND` tighter than `OR`;
parentheses group. The leaves are look-ups in the token table and comparisons of the path with a
pattern, each of which may be negated in itself.

* `Condition.ofText?` reads a text, `Condition.holds` evaluates what was read.
-/

namespace TagSearch

/-- A condition on a recorded file, as read from a text. -/
inductive Condition where
  /-- The token table has a row of the file that answers a token query. -/
  | lookup (query : String)
  /-- The path matches a pattern with some escape character. -/
  | like (pattern escape : String)
  | not (inner : Condition)
  | and (left right : Condition)
  | or (left right : Condition)
  deriving DecidableEq, Repr

/-- Whether the token table has a row of a file that answers a token query. -/
def Catalog.answers (c : Catalog) (query : String) (id : Int) : Bool :=
  match phraseOfQuery? query.toList with
  | some token => c.hasToken token id
  | none => false

namespace Condition

/-- The value of a condition on a file of a catalog. -/
def holds (c : Catalog) (f : FileRecord) : Condition → Bool
  | .lookup query => c.answers query f.id
  | .like pattern escape =>
    match escape.toList with
    | [e] => Like.accepts e (Like.visible pattern.toList) (Like.visible f.path.toList)
    | _ => false
  | .not p => !p.holds c f
  | .and l r => l.holds c f && r.holds c f
  | .or l r => l.holds c f || r.holds c f

/-! ## Reading -/

/-- Reads the set of files that a look-up asks for, behind its opening parenthesis. -/
def readLookup? : List ConditionToken → Option (Condition × List ConditionToken)
  | .keyword .select :: .name "files_fts.file_id" :: .keyword .source :: .name "files_fts" ::
      .keyword .filter :: .name "files_fts" :: .keyword .matching :: .literal query :: .closing ::
      rest =>
    some (.lookup query, rest)
  | _ => none

/-- Reads a leaf. -/
def readLeaf? : List ConditionToken → Option (Condition × List ConditionToken)
  | .name "files.id" :: .keyword .isIn :: .opening :: rest => readLookup? rest
  | .name "files.id" :: .keyword .not :: .keyword .isIn :: .opening :: rest =>
    (readLookup? rest).map fun (p, rest) => (.not p, rest)
  | .name "files.path" :: .keyword .like :: .literal pattern :: .keyword .escape ::
      .literal escape :: rest =>
    some (.like pattern escape, rest)
  | .name "files.path" :: .keyword .not :: .keyword .like :: .literal pattern :: .keyword .escape ::
      .literal escape :: rest =>
    some (.not (.like pattern escape), rest)
  | _ => none

mutual

/-- Reads a disjunction, and returns the tokens behind it. -/
def readOr? : (fuel : Nat) → List ConditionToken → Option (Condition × List ConditionToken)
  | 0, _ => none
  | fuel + 1, tokens =>
    match readAnd? fuel tokens with
    | some (p, .keyword .or :: rest) =>
      (readOr? fuel rest).map fun (q, rest) => (.or p q, rest)
    | result => result

/-- Reads a conjunction. -/
def readAnd? : (fuel : Nat) → List ConditionToken → Option (Condition × List ConditionToken)
  | 0, _ => none
  | fuel + 1, tokens =>
    match readNot? fuel tokens with
    | some (p, .keyword .and :: rest) =>
      (readAnd? fuel rest).map fun (q, rest) => (.and p q, rest)
    | result => result

/-- Reads a negation, a group, or a leaf. -/
def readNot? : (fuel : Nat) → List ConditionToken → Option (Condition × List ConditionToken)
  | 0, _ => none
  | fuel + 1, .keyword .not :: rest => (readNot? fuel rest).map fun (p, rest) => (.not p, rest)
  | fuel + 1, .opening :: rest =>
    match readOr? fuel rest with
    | some (p, .closing :: rest) => some (p, rest)
    | _ => none
  | _ + 1, tokens => readLeaf? tokens

end

/-- The condition that some tokens stand for. Between two tokens the reader descends through at most
three levels. -/
def ofTokens? (tokens : List ConditionToken) : Option Condition :=
  match readOr? (3 * tokens.length + 3) tokens with
  | some (p, []) => some p
  | _ => none

/-- The condition that a text stands for. -/
def ofText? (text : String) : Option Condition := (conditionTokens? text.toList).bind ofTokens?

end Condition

end TagSearch
