import TagSearch.Query.Layout
import TagSearch.Query.Parse

/-!
# Sentences and refusals

The grammar of queries, on the pieces that a text is cut into, and from it what is wrong with a text
that is no query: the first piece that no sentence has in its place, the end of a text that needs
one more piece, or the leftmost term with a bad key.

* `IsSentence` is the grammar, and `IsContinuable` holds of what a sentence may start with.
* `CutInto` says which pieces a text consists of, and where they are.
* `Refused` says which error is the right one for a text.
-/

namespace TagSearch

/-! ## The grammar -/

/-- The pieces of an atom that may be negated. -/
inductive LiteralTokens : List Token → Prop
  | plain (a : Atom) : LiteralTokens [.atom a]
  | negated (a : Atom) : LiteralTokens [.minus, .atom a]

/-- The pieces of one or more literals. -/
inductive AlternativeTokens : List Token → Prop
  | single {l : List Token} (literal : LiteralTokens l) : AlternativeTokens l
  | cons {l others : List Token} (literal : LiteralTokens l) (more : AlternativeTokens others) :
      AlternativeTokens (l ++ others)

/-- The pieces of a query: one or more alternatives with bars between them. -/
inductive IsSentence : List Token → Prop
  | single {l : List Token} (alternative : AlternativeTokens l) : IsSentence l
  | cons {l others : List Token} (alternative : AlternativeTokens l) (more : IsSentence others) :
      IsSentence (l ++ .bar :: others)

/-- Pieces that some sentence starts with. -/
def IsContinuable (l : List Token) : Prop := ∃ rest, IsSentence (l ++ rest)

/-! ## The pieces of a text -/

/-- A text that follows `n` characters consists of some pieces, with spacing around them. The run of
an atom is as long as it can be. -/
inductive CutInto : Nat → List Lexeme → List Char → Prop
  | spacing {n : Nat} {gap : List Char} (isGap : IsGap gap) : CutInto n [] gap
  | cons {n : Nat} {gap rest : List Char} {x : Lexeme} {xs : List Lexeme} (isGap : IsGap gap)
      (place : x.position = n + gap.length)
      (longest : ∀ a, x.token = .atom a → ∀ c ∈ rest.head?, inRun c = false)
      (others : CutInto (x.position + x.token.text.length) xs rest) :
      CutInto n (x :: xs) (gap ++ x.token.text.toList ++ rest)

/-! ## Refusals -/

/-- The pieces of a text. -/
def tokensOf (xs : List Lexeme) : List Token := xs.map (·.token)

/-- An atom whose key is not that of patterns, or whose pattern is empty. -/
def Token.IsBad (t : Token) : Prop :=
  ∃ key value, t = .atom (.keyed key value) ∧ (key.toLower ≠ pathKey ∨ value = "")

/-- The error for a text. -/
inductive Refused (q : String) : QueryError → Prop
  /-- A blank text is refused at its start. -/
  | blank (isBlank : Text.isBlankText q = true) : Refused q (.malformed 0 .emptyQuery)
  /-- A text is refused at the first piece that no sentence has there. -/
  | piece {front back : List Lexeme} {x : Lexeme} (notBlank : Text.isBlankText q = false)
      (split : lexemes 0 q.toList = front ++ x :: back) (before : IsContinuable (tokensOf front))
      (wrong : ¬ IsContinuable (tokensOf (front ++ [x]))) :
      Refused q (.malformed x.position x.token.fault)
  /-- A text that may go on, but is no sentence, is refused at its end. -/
  | ended (notBlank : Text.isBlankText q = false)
      (before : IsContinuable (tokensOf (lexemes 0 q.toList)))
      (unfinished : ¬ IsSentence (tokensOf (lexemes 0 q.toList))) :
      Refused q (.malformed q.length .endOfQuery)
  /-- A sentence is refused at the key of its leftmost bad term, if this is not that of patterns. -/
  | unknownKey {front back : List Lexeme} {n : Nat} {key value : String}
      (sentence : IsSentence (tokensOf (lexemes 0 q.toList)))
      (split : lexemes 0 q.toList = front ++ ⟨n, .atom (.keyed key value)⟩ :: back)
      (leftmost : ∀ y ∈ front, ¬ y.token.IsBad) (unknown : key.toLower ≠ pathKey) :
      Refused q (.unknownKey n key)
  /-- A sentence is refused behind the colon of its leftmost bad term, if no pattern follows. -/
  | missingValue {front back : List Lexeme} {n : Nat} {key : String}
      (sentence : IsSentence (tokensOf (lexemes 0 q.toList)))
      (split : lexemes 0 q.toList = front ++ ⟨n, .atom (.keyed key "")⟩ :: back)
      (leftmost : ∀ y ∈ front, ¬ y.token.IsBad) (known : key.toLower = pathKey) :
      Refused q (.malformed (n + key.length + 1) (.missingValue key))

end TagSearch
