import TagSearch.Proofs.Lists
import TagSearch.Query.Layout
import TagSearch.Query.Parse

/-!
# What alternatives stand for

The literals of a query are read one by one as signed terms. Alternatives have an expression if all
their literals are read, and it is the expression of the signed terms; otherwise the error is that
of a literal.

* `Literal.StandsFor` and `Alternatives.StandsFor` relate what is written to signed terms.
* `Alternatives.expr?_eq_ok_iff`: the expression of alternatives.
* `Alternatives.errorOf?_expr?`: the error of alternatives that have none.
-/

namespace TagSearch

namespace NonemptyList

variable {α β γ ε : Type}

/-- Two non-empty lists with related items. -/
structure Related (R : α → β → Prop) (a : NonemptyList α) (b : NonemptyList β) : Prop where
  head : R a.head b.head
  tail : List.Forall₂ R a.tail b.tail

theorem mapExcept_eq_ok_iff {f : α → Except ε β} {a : NonemptyList α} {b : NonemptyList β} :
    a.mapExcept f = .ok b ↔ Related (fun x y => f x = .ok y) a b := by
  rw [mapExcept, bind_eq_ok_iff]
  simp only [bind_eq_ok_iff, mapM_eq_ok_iff]
  constructor
  · rintro ⟨x, hx, xs, hxs, h⟩
    obtain rfl := Except.ok.inj h
    exact ⟨hx, hxs⟩
  · rintro ⟨hx, hxs⟩
    exact ⟨_, hx, _, hxs, rfl⟩

/-- The error on a non-empty list is that on the first item that has one. -/
theorem errorOf?_mapExcept (f : α → Except ε β) (a : NonemptyList α) :
    errorOf? (a.mapExcept f) = a.toList.findSome? fun x => errorOf? (f x) := by
  rw [mapExcept, errorOf?_bind, toList, List.findSome?_cons]
  cases f a.head with
  | error e => rfl
  | ok b =>
    rw [← errorOf?_mapM]
    cases a.tail.mapM f <;> rfl

/-- Items that are related through a function are related to the items it is applied to. -/
theorem related_exists_iff {R : α → γ → Prop} {g : γ → β} {a : NonemptyList α}
    {b : NonemptyList β} :
    Related (fun x y => ∃ z, R x z ∧ g z = y) a b ↔ ∃ c, Related R a c ∧ c.map g = b := by
  constructor
  · rintro ⟨⟨z, hz, e⟩, tail⟩
    obtain ⟨zs, hzs, e'⟩ := forall₂_exists_iff.1 tail
    refine ⟨⟨z, zs⟩, ⟨hz, hzs⟩, ?_⟩
    rw [map, e, e']
  · rintro ⟨c, ⟨head, tail⟩, rfl⟩
    exact ⟨⟨_, head, rfl⟩, forall₂_exists_iff.2 ⟨_, tail, rfl⟩⟩

end NonemptyList

/-! ## Literals and alternatives -/

/-- A literal as written stands for a signed term. -/
def Literal.StandsFor (l : Literal) (t : SignedTerm) : Prop :=
  l.negated = t.negated ∧ l.term? = .ok t.term

/-- Alternatives as written stand for alternatives of signed terms. -/
def Alternatives.StandsFor (a : Alternatives) (b : NonemptyList (NonemptyList SignedTerm)) : Prop :=
  a.Related (NonemptyList.Related Literal.StandsFor) b

theorem Literal.expr?_eq_ok_iff {l : Literal} {e : Expr} :
    l.expr? = .ok e ↔ ∃ t, l.StandsFor t ∧ t.toExpr = e := by
  rw [Literal.expr?, map_eq_ok_iff]
  constructor
  · rintro ⟨t, ht, rfl⟩
    exact ⟨⟨l.negated, t⟩, ⟨rfl, ht⟩, rfl⟩
  · rintro ⟨⟨negated, t⟩, ⟨rfl, ht⟩, rfl⟩
    exact ⟨t, ht, rfl⟩

theorem alternativeExpr?_eq_ok_iff {literals : NonemptyList Literal} {e : Expr} :
    alternativeExpr? literals = .ok e ↔
      ∃ ts, literals.Related Literal.StandsFor ts ∧
        (ts.map SignedTerm.toExpr).balanced .and = e := by
  rw [alternativeExpr?, map_eq_ok_iff]
  simp only [NonemptyList.mapExcept_eq_ok_iff, Literal.expr?_eq_ok_iff,
    NonemptyList.related_exists_iff]
  constructor
  · rintro ⟨_, ⟨ts, hts, rfl⟩, rfl⟩
    exact ⟨ts, hts, rfl⟩
  · rintro ⟨ts, hts, rfl⟩
    exact ⟨_, ⟨ts, hts, rfl⟩, rfl⟩

/-- **The expression of alternatives** is that of the signed terms that they stand for. -/
theorem Alternatives.expr?_eq_ok_iff {a : Alternatives} {e : Expr} :
    a.expr? = .ok e ↔ ∃ b, a.StandsFor b ∧ e = alternativesExpr b := by
  rw [Alternatives.expr?, map_eq_ok_iff]
  simp only [NonemptyList.mapExcept_eq_ok_iff, alternativeExpr?_eq_ok_iff,
    NonemptyList.related_exists_iff]
  constructor
  · rintro ⟨_, ⟨b, hb, rfl⟩, rfl⟩
    exact ⟨b, hb, rfl⟩
  · rintro ⟨b, hb, rfl⟩
    exact ⟨_, ⟨b, hb, rfl⟩, rfl⟩

/-- The literals of alternatives, in the order of the text. -/
def Alternatives.literals (a : Alternatives) : List Literal := a.toList.flatMap NonemptyList.toList

namespace Alternatives

variable {l : Literal} {a : Alternatives}

theorem literals_push : literals (a.push (.single l)) = l :: a.literals := rfl

theorem literals_pushFirst : (a.pushFirst l).literals = l :: a.literals := rfl

end Alternatives

/-- **The error in the expression of alternatives** is that of the first literal that has one. -/
theorem Alternatives.errorOf?_expr? (a : Alternatives) :
    errorOf? a.expr? = a.literals.findSome? fun l => errorOf? l.term? := by
  have literal (l : Literal) : errorOf? l.expr? = errorOf? l.term? := errorOf?_map _ _
  have alternative (alt : NonemptyList Literal) :
      errorOf? (alternativeExpr? alt) = alt.toList.findSome? fun l => errorOf? l.term? := by
    rw [alternativeExpr?, errorOf?_map, NonemptyList.errorOf?_mapExcept]
    simp only [literal]
  rw [Alternatives.expr?, errorOf?_map, NonemptyList.errorOf?_mapExcept, literals,
    findSome?_flatMap]
  simp only [alternative]

end TagSearch
