import TagSearch.Proofs.Predicate.Meaning
import TagSearch.Proofs.Predicate.Tokens

/-!
# Reading a printed predicate

Conditions have three levels, and an operand of one level is a condition of the next. The printed
text of a predicate nests neither conjunctions in conjunctions nor disjunctions in disjunctions, so
what is read differs in shape from what was printed, but it has the same value on every file.

* `Reads` is the grammar of conditions, and `Reads.read?_eq` says that the reader follows it.
* `IsUnit`, `IsConjunction` and `IsDisjunction` are tokens with a value at one of the levels.
* `Predicate.isConjunction_and_isDisjunction`: the tokens of a predicate have its value.
* `Predicate.ofText?_render_ofExpr`: the printed text of an expression means the expression.
-/

namespace TagSearch

/-- The levels of conditions, from the one that binds least. -/
inductive Level where
  | or
  | and
  | not
  deriving DecidableEq, Repr

/-- The number of steps from a level down to a leaf. -/
def Level.rank : Level → Nat
  | .or => 3
  | .and => 2
  | .not => 1

/-- The reader takes a step at every level. -/
theorem Level.exists_eq_succ {l : Level} {k fuel : Nat} (h : k + l.rank ≤ fuel) :
    ∃ n, fuel = n + 1 := by
  have : 1 ≤ l.rank := by cases l <;> decide
  exact Nat.exists_eq_add_one.2 (by omega)

namespace Condition

/-- The reader of a level. -/
def read? : Level → (fuel : Nat) → List ConditionToken → Option (Condition × List ConditionToken)
  | .or => readOr?
  | .and => readAnd?
  | .not => readNot?

/-! ## The grammar -/

/-- The grammar of conditions: some tokens begin with a condition of a level, and others are left.
An operator is read wherever there is one. -/
inductive Reads : Level → List ConditionToken → Condition → List ConditionToken → Prop
  | leaf {name : String} {ts rest : List ConditionToken} {p : Condition}
    (h : readLeaf? (.name name :: ts) = some (p, rest)) (shorter : rest.length ≤ ts.length) :
    Reads .not (.name name :: ts) p rest
  | negation {ts rest : List ConditionToken} {p : Condition} (h : Reads .not ts p rest) :
    Reads .not (.keyword .not :: ts) (.not p) rest
  | group {ts rest : List ConditionToken} {p : Condition}
    (h : Reads .or ts p (.closing :: rest)) : Reads .not (.opening :: ts) p rest
  | lastFactor {ts rest : List ConditionToken} {p : Condition} (h : Reads .not ts p rest)
    (last : rest.head? ≠ some (.keyword .and)) : Reads .and ts p rest
  | factor {ts more rest : List ConditionToken} {p q : Condition}
    (h : Reads .not ts p (.keyword .and :: more)) (h' : Reads .and more q rest) :
    Reads .and ts (.and p q) rest
  | lastOption {ts rest : List ConditionToken} {p : Condition} (h : Reads .and ts p rest)
    (last : rest.head? ≠ some (.keyword .or)) : Reads .or ts p rest
  | option {ts more rest : List ConditionToken} {p q : Condition}
    (h : Reads .and ts p (.keyword .or :: more)) (h' : Reads .or more q rest) :
    Reads .or ts (.or p q) rest

theorem Reads.length_lt {l : Level} {ts rest : List ConditionToken} {p : Condition}
    (h : Reads l ts p rest) : rest.length < ts.length := by
  induction h with
  | leaf _ shorter => exact Nat.lt_succ_of_le shorter
  | negation _ ih => exact Nat.lt_succ_of_lt ih
  | group _ ih =>
    rw [List.length_cons] at ih ⊢
    omega
  | lastFactor _ _ ih => exact ih
  | factor _ _ ih ih' =>
    rw [List.length_cons] at ih
    omega
  | lastOption _ _ ih => exact ih
  | option _ _ ih ih' =>
    rw [List.length_cons] at ih
    omega

/-! ## Steps of the reader -/

section Steps

variable {n : Nat} {ts more rest : List ConditionToken} {p q : Condition}

theorem readNot?_negation (h : readNot? n ts = some (p, rest)) :
    readNot? (n + 1) (.keyword .not :: ts) = some (.not p, rest) := by
  rw [readNot?, h, Option.map_some]

theorem readNot?_group (h : readOr? n ts = some (p, .closing :: rest)) :
    readNot? (n + 1) (.opening :: ts) = some (p, rest) := by
  rw [readNot?, h]

theorem readAnd?_last (h : readNot? n ts = some (p, rest))
    (last : rest.head? ≠ some (.keyword .and)) : readAnd? (n + 1) ts = some (p, rest) := by
  rw [readAnd?, h]
  split
  · next e =>
      obtain ⟨-, rfl⟩ := Prod.mk.inj (Option.some.inj e)
      exact absurd rfl last
  · rfl

theorem readAnd?_factor (h : readNot? n ts = some (p, .keyword .and :: more))
    (h' : readAnd? n more = some (q, rest)) : readAnd? (n + 1) ts = some (.and p q, rest) := by
  rw [readAnd?, h]
  dsimp only
  rw [h', Option.map_some]

theorem readOr?_last (h : readAnd? n ts = some (p, rest))
    (last : rest.head? ≠ some (.keyword .or)) : readOr? (n + 1) ts = some (p, rest) := by
  rw [readOr?, h]
  split
  · next e =>
      obtain ⟨-, rfl⟩ := Prod.mk.inj (Option.some.inj e)
      exact absurd rfl last
  · rfl

theorem readOr?_option (h : readAnd? n ts = some (p, .keyword .or :: more))
    (h' : readOr? n more = some (q, rest)) : readOr? (n + 1) ts = some (.or p q, rest) := by
  rw [readOr?, h]
  dsimp only
  rw [h', Option.map_some]

end Steps

/-- **The reader follows the grammar**, if it may take three steps for every token. -/
theorem Reads.read?_eq {l : Level} {ts rest : List ConditionToken} {p : Condition}
    (h : Reads l ts p rest) {fuel : Nat} (enough : 3 * ts.length + l.rank ≤ fuel) :
    read? l fuel ts = some (p, rest) := by
  induction h generalizing fuel with
  | leaf h =>
    obtain ⟨n, rfl⟩ := Level.exists_eq_succ enough
    exact h
  | negation _ ih =>
    obtain ⟨n, rfl⟩ := Level.exists_eq_succ enough
    simp only [List.length_cons, Level.rank] at enough ih
    exact readNot?_negation (ih (by omega))
  | group _ ih =>
    obtain ⟨n, rfl⟩ := Level.exists_eq_succ enough
    simp only [List.length_cons, Level.rank] at enough ih
    exact readNot?_group (ih (by omega))
  | lastFactor _ last ih =>
    obtain ⟨n, rfl⟩ := Level.exists_eq_succ enough
    simp only [Level.rank] at enough ih
    exact readAnd?_last (ih (by omega)) last
  | factor h _ ih ih' =>
    obtain ⟨n, rfl⟩ := Level.exists_eq_succ enough
    have shorter := h.length_lt
    simp only [List.length_cons, Level.rank] at enough ih ih' shorter
    exact readAnd?_factor (ih (by omega)) (ih' (by omega))
  | lastOption _ last ih =>
    obtain ⟨n, rfl⟩ := Level.exists_eq_succ enough
    simp only [Level.rank] at enough ih
    exact readOr?_last (ih (by omega)) last
  | option h _ ih ih' =>
    obtain ⟨n, rfl⟩ := Level.exists_eq_succ enough
    have shorter := h.length_lt
    simp only [List.length_cons, Level.rank] at enough ih ih' shorter
    exact readOr?_option (ih (by omega)) (ih' (by omega))

/-! ## Tokens with a value -/

/-- The value of a condition on the files of a catalog. -/
abbrev Value := Catalog → FileRecord → Bool

/-- Tokens with a value wherever a negation, a group or a leaf may stand. -/
def IsUnit (ts : List ConditionToken) (v : Value) : Prop :=
  ∀ rest, ∃ q, Reads .not (ts ++ rest) q rest ∧ ∀ c f, q.holds c f = v c f

/-- Tokens with a value as operands of `AND`, the last ones or with others behind them. -/
structure IsConjunction (ts : List ConditionToken) (v : Value) : Prop where
  last : ∀ rest, rest.head? ≠ some (.keyword .and) →
    ∃ q, Reads .and (ts ++ rest) q rest ∧ ∀ c f, q.holds c f = v c f
  before : ∀ {more rest q'}, Reads .and more q' rest →
    ∃ q, Reads .and (ts ++ .keyword .and :: more) q rest ∧
      ∀ c f, q.holds c f = (v c f && q'.holds c f)

/-- Tokens with a value as operands of `OR`, the last ones or with others behind them. -/
structure IsDisjunction (ts : List ConditionToken) (v : Value) : Prop where
  last : ∀ rest, rest.head? ≠ some (.keyword .and) → rest.head? ≠ some (.keyword .or) →
    ∃ q, Reads .or (ts ++ rest) q rest ∧ ∀ c f, q.holds c f = v c f
  before : ∀ {more rest q'}, Reads .or more q' rest →
    ∃ q, Reads .or (ts ++ .keyword .or :: more) q rest ∧
      ∀ c f, q.holds c f = (v c f || q'.holds c f)

section Values

variable {ts us : List ConditionToken} {v w : Value}

theorem IsUnit.isConjunction (h : IsUnit ts v) : IsConjunction ts v where
  last rest hrest := by
    obtain ⟨q, read, value⟩ := h rest
    exact ⟨q, .lastFactor read hrest, value⟩
  before {more rest q'} others := by
    obtain ⟨q, read, value⟩ := h (.keyword .and :: more)
    exact ⟨.and q q', .factor read others, fun c f => by rw [holds, value]⟩

theorem IsConjunction.isDisjunction (h : IsConjunction ts v) : IsDisjunction ts v where
  last rest hand hor := by
    obtain ⟨q, read, value⟩ := h.last rest hand
    exact ⟨q, .lastOption read hor, value⟩
  before {more rest q'} others := by
    obtain ⟨q, read, value⟩ := h.last (.keyword .or :: more) (by simp)
    exact ⟨.or q q', .option read others, fun c f => by rw [holds, value]⟩

/-- Conjunctions next to each other are read as one, with the value of both. -/
theorem IsConjunction.and (h : IsConjunction ts v) (h' : IsConjunction us w) :
    IsConjunction (ts ++ .keyword .and :: us) fun c f => v c f && w c f where
  last rest hrest := by
    obtain ⟨q', read', value'⟩ := h'.last rest hrest
    obtain ⟨q, read, value⟩ := h.before read'
    exact ⟨q, by simpa using read, fun c f => by rw [value, value']⟩
  before {more rest q'} others := by
    obtain ⟨q₁, read₁, value₁⟩ := h'.before others
    obtain ⟨q, read, value⟩ := h.before read₁
    exact ⟨q, by simpa using read, fun c f => by rw [value, value₁, Bool.and_assoc]⟩

/-- Disjunctions next to each other are read as one, with the value of both. -/
theorem IsDisjunction.or (h : IsDisjunction ts v) (h' : IsDisjunction us w) :
    IsDisjunction (ts ++ .keyword .or :: us) fun c f => v c f || w c f where
  last rest hand hor := by
    obtain ⟨q', read', value'⟩ := h'.last rest hand hor
    obtain ⟨q, read, value⟩ := h.before read'
    exact ⟨q, by simpa using read, fun c f => by rw [value, value']⟩
  before {more rest q'} others := by
    obtain ⟨q₁, read₁, value₁⟩ := h'.before others
    obtain ⟨q, read, value⟩ := h.before read₁
    exact ⟨q, by simpa using read, fun c f => by rw [value, value₁, Bool.or_assoc]⟩

/-- Parentheses make a unit of a disjunction. -/
theorem IsDisjunction.group (h : IsDisjunction ts v) : IsUnit (.opening :: ts ++ [.closing]) v := by
  intro rest
  obtain ⟨q, read, value⟩ := h.last (.closing :: rest) (by simp) (by simp)
  exact ⟨q, by simpa using Reads.group read, value⟩

theorem IsUnit.negation (h : IsUnit ts v) :
    IsUnit (.keyword .not :: ts) fun c f => !v c f := by
  intro rest
  obtain ⟨q, read, value⟩ := h rest
  exact ⟨.not q, .negation read, fun c f => by rw [holds, value]⟩

end Values

/-! ## Leaves -/

theorem toList_tokenQuery (token : String) :
    (tokenQuery token).toList =
      (tokenColumn.toList ++ [':', '"']) ++ (Text.double '"' token.toList ++ ['"']) := by
  simp [tokenQuery, escapePhrase, tokenColumn]

/-- A look-up asks for the token that its query text names. -/
theorem phraseOfQuery?_tokenQuery (token : String) :
    phraseOfQuery? (tokenQuery token).toList = some token := by
  have none : ([] : List Char).head? ≠ some '"' := by simp
  rw [phraseOfQuery?, toList_tokenQuery, List.take_left, if_pos rfl, List.drop_left,
    Text.unquote_double token.toList none]
  simp

theorem answers_tokenQuery (c : Catalog) (token : String) (id : Int) :
    c.answers (tokenQuery token) id = c.hasToken token id := by
  rw [Catalog.answers, phraseOfQuery?_tokenQuery]

theorem isUnit_isIn (token : String) :
    IsUnit (.name "files.id" :: .keyword .isIn :: Predicate.lookupTokens token)
      fun c f => c.hasToken token f.id := by
  intro rest
  refine ⟨.lookup (tokenQuery token), .leaf rfl ?_, fun c f => answers_tokenQuery c token f.id⟩
  simp
  omega

theorem isUnit_notIn (token : String) :
    IsUnit (.name "files.id" :: .keyword .not :: .keyword .isIn :: Predicate.lookupTokens token)
      fun c f => !c.hasToken token f.id := by
  intro rest
  refine ⟨.not (.lookup (tokenQuery token)), .leaf rfl ?_, fun c f => ?_⟩
  · simp
    omega
  · rw [holds, holds, answers_tokenQuery]

theorem holds_like (pattern : String) (c : Catalog) (f : FileRecord) :
    (Condition.like pattern Like.escapeChar.toString).holds c f =
      Like.acceptsPath pattern f.path := by
  have escape : Like.escapeChar.toString.toList = [Like.escapeChar] := by cbv
  rw [holds, escape]
  rfl

theorem isUnit_like (pattern : String) :
    IsUnit
      [.name "files.path", .keyword .like, .literal pattern, .keyword .escape,
        .literal Like.escapeChar.toString]
      fun _ f => Like.acceptsPath pattern f.path := by
  intro rest
  refine ⟨.like pattern Like.escapeChar.toString, .leaf rfl ?_, holds_like pattern⟩
  simp
  omega

theorem isUnit_notLike (pattern : String) :
    IsUnit
      [.name "files.path", .keyword .not, .keyword .like, .literal pattern, .keyword .escape,
        .literal Like.escapeChar.toString]
      fun _ f => !Like.acceptsPath pattern f.path := by
  intro rest
  refine ⟨.not (.like pattern Like.escapeChar.toString), .leaf rfl ?_, fun c f => ?_⟩
  · simp
    omega
  · rw [holds, holds_like]

end Condition

/-! ## Printed predicates -/

namespace Predicate

open Condition

/-- The value of a predicate. -/
def value (p : Predicate) : Value := fun c f => p.holds c f

theorem isUnit_hasToken (negated : Bool) (token : String) :
    IsUnit (tokens (.hasToken negated token)) (value (.hasToken negated token)) := by
  cases negated with
  | false =>
    have e : value (.hasToken false token) = fun c f => c.hasToken token f.id := by
      funext c f
      simp [value, holds]
    rw [e]
    exact isUnit_isIn token
  | true =>
    have e : value (.hasToken true token) = fun c f => !c.hasToken token f.id := by
      funext c f
      simp [value, holds]
    rw [e]
    exact (isUnit_notIn token).isConjunction.isDisjunction.group

theorem isUnit_pathLike (negated : Bool) (pattern : String) :
    IsUnit (tokens (.pathLike negated pattern)) (value (.pathLike negated pattern)) := by
  cases negated with
  | false =>
    have e : value (.pathLike false pattern) = fun _ f => Like.acceptsPath pattern f.path := by
      funext c f
      simp [value, holds]
    rw [e]
    exact isUnit_like pattern
  | true =>
    have e : value (.pathLike true pattern) = fun _ f => !Like.acceptsPath pattern f.path := by
      funext c f
      simp [value, holds]
    rw [e]
    exact isUnit_notLike pattern

/-- **The tokens of a predicate have its value**, as an operand of `AND` where a disjunction stands
in parentheses, and as an operand of `OR`. -/
theorem isConjunction_and_isDisjunction (p : Predicate) :
    IsConjunction (groupTokens p p.tokens) p.value ∧ IsDisjunction p.tokens p.value := by
  induction p with
  | hasToken negated token =>
    have unit := (isUnit_hasToken negated token).isConjunction
    exact ⟨unit, unit.isDisjunction⟩
  | pathLike negated pattern =>
    have unit := (isUnit_pathLike negated pattern).isConjunction
    exact ⟨unit, unit.isDisjunction⟩
  | and l r ihl ihr =>
    have both : IsConjunction (tokens (.and l r)) (value (.and l r)) := ihl.1.and ihr.1
    exact ⟨both, both.isDisjunction⟩
  | or l r ihl ihr =>
    have either : IsDisjunction (tokens (.or l r)) (value (.or l r)) := ihl.2.or ihr.2
    exact ⟨either.group.isConjunction, either⟩
  | not p ih =>
    have unit : IsUnit (tokens (.not p)) (value (.not p)) := ih.2.group.negation
    exact ⟨unit.isConjunction, unit.isConjunction.isDisjunction⟩

/-- The printed text of a predicate is a condition with its value. -/
theorem ofText?_render (p : Predicate) :
    ∃ q, Condition.ofText? p.render = some q ∧ ∀ c f, q.holds c f = p.holds c f := by
  obtain ⟨q, read, same⟩ := p.isConjunction_and_isDisjunction.2.last [] (by simp) (by simp)
  rw [List.append_nil] at read
  have all : read? .or (3 * p.tokens.length + 3) p.tokens = some (q, []) :=
    read.read?_eq (Nat.le_refl _)
  rw [show read? .or = readOr? from rfl] at all
  refine ⟨q, ?_, same⟩
  rw [Condition.ofText?, conditionTokens?_render, Option.bind_some, ofTokens?, all]

/-- **The printed text of an expression means the expression.** Whatever the texts in its terms are
and whatever the tables hold, the text is a condition, and it is true of a file if the expression is
by what the tables say of its terms. -/
theorem ofText?_render_ofExpr (e : Expr) (m : PathMatch) :
    ∃ q, Condition.ofText? (ofExpr m e).render = some q ∧
      ∀ c f, q.holds c f = true ↔ e.Holds (Term.Found m c f) := by
  obtain ⟨q, read, same⟩ := ofText?_render (ofExpr m e)
  exact ⟨q, read, fun c f => by rw [same, holds_ofExpr_iff]⟩

end Predicate

end TagSearch
