import TagSearch.Proofs.Expr.Folding
import TagSearch.Proofs.Query.Layouts

/-!
# Queries written from expressions

The expression of a query is a fold of alternatives by `or`, and each of these is a fold of literals
by `and`. Taken apart at both connectives, it gives back the literals as they stand in the query;
written in one line, they are a query for the same expression.

* `Expr.alternatives?` takes an expression apart, and `writtenQuery` writes what comes out.
* `alternatives?_alternativesExpr`: alternatives are found again in their expression.
* `queryLayout_writtenQuery`: what is written is laid out.
* `folds_are_balanced_and_faithful`: folds in general, and that of a query.
-/

namespace TagSearch

/-! ## Writing -/

/-- The signed term that an expression consists of, if it is a literal. -/
def SignedTerm.ofExpr? : Expr → Option SignedTerm
  | .term t => some ⟨false, t⟩
  | .not (.term t) => some ⟨true, t⟩
  | _ => none

/-- The alternatives of an expression, if it is a disjunction of conjunctions of literals. -/
def Expr.alternatives? (e : Expr) : Option (List (List SignedTerm)) :=
  (e.operands .disjunction).mapM fun a => (a.operands .conjunction).mapM SignedTerm.ofExpr?

/-- A term as it stands in a query. -/
def Term.written : Term → List Char
  | .tag name => name.toList
  | .inPath pattern => pathKey.toList ++ ':' :: pattern.toList

/-- A literal as it stands in a query. -/
def SignedTerm.written (l : SignedTerm) : List Char :=
  if l.negated then '-' :: l.term.written else l.term.written

/-- An alternative: its literals with spaces between them. -/
def writtenAlternative (literals : List SignedTerm) : List Char :=
  [' '].intercalate (literals.map SignedTerm.written)

/-- A query: its alternatives with bars between them. -/
def writtenQuery (alternatives : List (List SignedTerm)) : String :=
  String.ofList ([' ', '|', ' '].intercalate (alternatives.map writtenAlternative))

theorem writtenAlternative_push (l : SignedTerm) (rest : NonemptyList SignedTerm) :
    writtenAlternative (rest.push l).toList =
      l.written ++ [' '] ++ writtenAlternative rest.toList := by
  simp [writtenAlternative, NonemptyList.toList, NonemptyList.push]

theorem toList_writtenQuery_single (a : List SignedTerm) :
    (writtenQuery [a]).toList = writtenAlternative a := by
  simp [writtenQuery]

theorem toList_writtenQuery_push (a : NonemptyList SignedTerm)
    (rest : NonemptyList (NonemptyList SignedTerm)) :
    (writtenQuery ((rest.push a).toList.map NonemptyList.toList)).toList =
      writtenAlternative a.toList ++ [' '] ++
        '|' :: ([' '] ++ (writtenQuery (rest.toList.map NonemptyList.toList)).toList) := by
  simp [writtenQuery, NonemptyList.toList, NonemptyList.push]

/-! ## Taking apart -/

section Apart

theorem mapM_map_eq_some {α β γ : Type} {f : α → β} {g : β → Option γ} {h : α → γ} {l : List α}
    (each : ∀ a ∈ l, g (f a) = some (h a)) : (l.map f).mapM g = some (l.map h) := by
  induction l with
  | nil => rfl
  | cons a l ih =>
    rw [List.forall_mem_cons] at each
    simp [each.1, ih each.2]

theorem SignedTerm.not_joins_toExpr (j : Junction) (l : SignedTerm) : ¬ j.Joins l.toExpr := by
  rintro ⟨a, b, same⟩
  rw [SignedTerm.toExpr] at same
  cases j <;> split at same <;> cases same

@[simp] theorem SignedTerm.ofExpr?_toExpr (l : SignedTerm) :
    SignedTerm.ofExpr? l.toExpr = some l := by
  obtain ⟨negated, t⟩ := l
  cases negated <;> rfl

/-- The expression of an alternative. -/
def alternativeExpr (literals : NonemptyList SignedTerm) : Expr :=
  (literals.map SignedTerm.toExpr).balanced .and

/-- What holds of the expression of every item holds of all expressions that are folded. -/
theorem NonemptyList.forall_mem_toList_map {α β : Type} {f : α → β} {p : β → Prop}
    (items : NonemptyList α) (each : ∀ a, p (f a)) : ∀ e ∈ (items.map f).toList, p e := by
  rw [NonemptyList.toList_map]
  exact List.forall_mem_map.2 fun a _ => each a

/-- The operands of an alternative are its literals. -/
theorem operands_alternativeExpr (literals : NonemptyList SignedTerm) :
    (alternativeExpr literals).operands .conjunction = literals.toList.map SignedTerm.toExpr :=
  operands_balanced (j := .conjunction) _
    (literals.forall_mem_toList_map (SignedTerm.not_joins_toExpr _))

/-- An alternative is no disjunction. -/
theorem not_joins_alternativeExpr (literals : NonemptyList SignedTerm) :
    ¬ Junction.disjunction.Joins (alternativeExpr literals) :=
  not_joins_balanced (j := .conjunction) (by decide) _
    (literals.forall_mem_toList_map (SignedTerm.not_joins_toExpr _))

/-- The operands of the expression of alternatives are their expressions. -/
theorem operands_alternativesExpr (b : NonemptyList (NonemptyList SignedTerm)) :
    (alternativesExpr b).operands .disjunction = b.toList.map alternativeExpr :=
  operands_balanced (j := .disjunction) _ (b.forall_mem_toList_map not_joins_alternativeExpr)

/-- **Alternatives are found again in their expression.** -/
theorem alternatives?_alternativesExpr (b : NonemptyList (NonemptyList SignedTerm)) :
    (alternativesExpr b).alternatives? = some (b.toList.map NonemptyList.toList) := by
  rw [Expr.alternatives?, operands_alternativesExpr]
  refine mapM_map_eq_some fun a _ => ?_
  rw [operands_alternativeExpr, mapM_map_eq_some fun l _ => l.ofExpr?_toExpr, List.map_id']

end Apart

/-! ## What is written is laid out -/

section Layout

/-- A term that has a layout is laid out as it is written. -/
theorem AtomLayout.written {t : Term} {s : List Char} (h : AtomLayout t s) :
    AtomLayout t t.written := by
  cases h with
  | tag run ne plain keyless =>
    rw [Term.written, String.toList_ofList]
    exact .tag run ne plain keyless
  | inPath named run ne =>
    rw [Term.written, String.toList_ofList]
    exact .inPath (by decide) run ne

theorem LiteralLayout.written {l : SignedTerm} {s : List Char} (h : LiteralLayout l s) :
    LiteralLayout l l.written := by
  cases h with
  | plain atom => exact .plain atom.written
  | negated _ atom => exact .negated isGap_nil atom.written

theorem isGap_space : IsGap [' '] := fun c hc => by
  obtain rfl := List.mem_singleton.1 hc
  decide

theorem AlternativeLayout.written {a : NonemptyList SignedTerm} {s : List Char}
    (h : AlternativeLayout a s) : AlternativeLayout a (writtenAlternative a.toList) := by
  induction h with
  | single literal =>
    simpa [writtenAlternative] using AlternativeLayout.single literal.written
  | push literal _ _ _ ih =>
    rw [writtenAlternative_push]
    exact .push literal.written isGap_space (by simp) ih

/-- **Alternatives that have a layout are laid out as they are written.** -/
theorem queryLayout_writtenQuery {b : NonemptyList (NonemptyList SignedTerm)} {s : List Char}
    (h : QueryLayout b s) :
    QueryLayout b (writtenQuery (b.toList.map NonemptyList.toList)).toList := by
  induction h with
  | single _ alternative _ =>
    rw [NonemptyList.toList_single, List.map_singleton, toList_writtenQuery_single]
    simpa using QueryLayout.single isGap_nil alternative.written isGap_nil
  | push _ alternative _ _ ih =>
    rw [toList_writtenQuery_push]
    exact .push isGap_nil alternative.written isGap_space (ih.lead isGap_space)

end Layout

/-! ## Folds -/

/-- **A query can be written from its expression**: taken apart at its disjunctions and then at its
conjunctions, the expression gives back literals, and these are a query for the same expression. -/
theorem parse_writtenQuery {q : String} {e : Expr} (h : parse q = .ok e) :
    ∃ alternatives, e.alternatives? = some alternatives ∧
      parse (writtenQuery alternatives) = .ok e := by
  obtain ⟨b, layout, rfl⟩ := parse_eq_ok_iff.1 h
  refine ⟨_, alternatives?_alternativesExpr b, ?_⟩
  exact parse_eq_ok_iff.2 ⟨b, queryLayout_writtenQuery layout, rfl⟩

/-- **Folds are balanced and faithful.** A fold of one or more expressions by a connective holds of
a file if the connective holds of the expressions. Every one of them stands below as many
connectives of the fold as the logarithm of their number, rounded down or up. If none of them is
itself joined by the connective, they are the operands of the fold, in their order, and no others
have the same fold. The expression of a query is such a fold of such folds: it can be taken apart
into literals, and these are a query for the same expression. -/
theorem folds_are_balanced_and_faithful (j : Junction) {items : List Expr} (ne : items ≠ []) :
    (∀ leaf, (balanced j.join items ne).Holds leaf ↔ j.Unites leaf items) ∧
    (∃ b : Bracketing Expr, b.items = items ∧ (∀ f, balanced f items ne = b.combine f) ∧
      ∀ d ∈ b.depths, d = Nat.log 2 items.length ∨ d = Nat.clog 2 items.length) ∧
    ((∀ e ∈ items, ¬ j.Joins e) →
      (balanced j.join items ne).operands j = items ∧
      ∀ others ne', (∀ e ∈ others, ¬ j.Joins e) →
        balanced j.join others ne' = balanced j.join items ne → others = items) ∧
    ∀ q e, parse q = .ok e → ∃ alternatives, e.alternatives? = some alternatives ∧
      parse (writtenQuery alternatives) = .ok e := by
  refine ⟨fun leaf => holds_balanced ne, ?_, fun apart => ⟨operands_balanced ne apart, ?_⟩,
    fun q e => parse_writtenQuery⟩
  · obtain ⟨b, same, fold, depth⟩ := exists_bracketing items ne
    refine ⟨b, same, fold, fun d mem => ?_⟩
    obtain ⟨low, high⟩ := depth d mem
    exact eq_log_or_eq_clog low high
  · intro others ne' apart' same
    exact balanced_injective apart' apart same

/-- Three literals are folded, and a query with these literals is written anew. -/
theorem folds_are_balanced_and_faithful_three :
    let items : List Expr := [.term (.tag "a"), .not (.term (.tag "b")), .term (.inPath "c")]
    let fold : Expr := .and (.term (.tag "a")) (.and (.not (.term (.tag "b"))) (.term (.inPath "c")))
    (∃ ne : items ≠ [], balanced .and items ne = fold) ∧
    (∀ e ∈ items, ¬ Junction.conjunction.Joins e) ∧ fold.operands .conjunction = items ∧
    parse "a  - b INPATH:c" = .ok fold ∧
    fold.alternatives? = some [[⟨false, .tag "a"⟩, ⟨true, .tag "b"⟩, ⟨false, .inPath "c"⟩]] ∧
    parse "a -b inpath:c" = .ok fold := by
  intro items fold
  have ne : items ≠ [] := List.cons_ne_nil _ _
  have folded : balanced .and items ne = fold := by cbv
  have apart : ∀ e ∈ items, ¬ Junction.conjunction.Joins e := by
    rintro e mem ⟨l, r, rfl⟩
    simp [items, Junction.join] at mem
  obtain ⟨-, -, faithful, written⟩ := folds_are_balanced_and_faithful .conjunction ne
  have read : parse "a  - b INPATH:c" = .ok fold := by decide +kernel
  obtain ⟨alternatives, found, again⟩ := written _ _ read
  have literals : fold.alternatives? =
      some [[⟨false, .tag "a"⟩, ⟨true, .tag "b"⟩, ⟨false, .inPath "c"⟩]] := rfl
  obtain rfl := Option.some.inj (literals.symm.trans found)
  have text : writtenQuery [[⟨false, .tag "a"⟩, ⟨true, .tag "b"⟩, ⟨false, .inPath "c"⟩]] =
      "a -b inpath:c" := by decide +kernel
  rw [text] at again
  refine ⟨⟨ne, folded⟩, apart, ?_, read, literals, again⟩
  rw [← folded]
  exact (faithful apart).1

end TagSearch
