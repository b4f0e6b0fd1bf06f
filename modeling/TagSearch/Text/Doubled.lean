/-!
# Doubled quotes

Inside a quoted text the quote is written twice, and everything else once. The reader stops at the
first quote that is not doubled, so a quoted text ends where its writer ended it.

* `double` writes the inside of a quoted text, `quoted` adds the two quotes around it.
* `unquote` reads what follows an opening quote and returns the rest, which is shorter.
* `unquote_double`: what was written is read back, up to the quote that closes it.
-/

namespace TagSearch.Text

/-- The inside of a quoted text: each quote `q` twice. -/
def double (q : Char) : List Char → List Char
  | [] => []
  | c :: r => if c = q then q :: q :: double q r else c :: double q r

/-- A text between two quotes `q`. -/
def quoted (q : Char) (s : List Char) : List Char := q :: double q s ++ [q]

/-- Reads what follows an opening quote `q`: the text, and what comes after the closing quote. -/
def unquote (q : Char) : List Char → Option (List Char × List Char)
  | [] => none
  | [c] => if c = q then some ([], []) else none
  | c :: d :: r =>
    if c = q then
      if d = q then (unquote q r).map fun (s, rest) => (q :: s, rest) else some ([], d :: r)
    else (unquote q (d :: r)).map fun (s, rest) => (c :: s, rest)

@[simp] theorem double_nil (q : Char) : double q [] = [] := rfl

/-- A text is read back from its quoted form, and what comes behind the closing quote is left. -/
theorem unquote_double {q : Char} (s : List Char) {rest : List Char} (h : rest.head? ≠ some q) :
    unquote q (double q s ++ q :: rest) = some (s, rest) := by
  induction s with
  | nil =>
    cases rest with
    | nil => simp [unquote]
    | cons d rest =>
      have hd : d ≠ q := fun e => h (by rw [e, List.head?_cons])
      simp [unquote, hd]
  | cons c s ih =>
    by_cases hc : c = q
    · simp [double, unquote, hc, ih]
    · obtain ⟨d, r, hr⟩ : ∃ d r, double q s ++ q :: rest = d :: r :=
        List.exists_cons_of_ne_nil (by simp)
      rw [hr] at ih
      simp [double, unquote, hc, hr, ih]

/-- What follows the closing quote does not matter, unless it is another quote. -/
theorem unquote_append {q : Char} {s t u rest : List Char} (h : unquote q s = some (t, u))
    (hr : rest.head? ≠ some q) : unquote q (s ++ rest) = some (t, u ++ rest) := by
  fun_induction unquote q s generalizing t with
  | case1 => cases h
  | case2 =>
    obtain ⟨rfl, rfl⟩ := Prod.mk.inj (Option.some.inj h)
    exact unquote_double [] hr
  | case3 => cases h
  | case4 r ih =>
    obtain ⟨⟨s, v⟩, hs, e⟩ := Option.map_eq_some_iff.1 h
    obtain ⟨rfl, rfl⟩ := Prod.mk.inj e
    simp [unquote, ih hs]
  | case5 d r hd =>
    obtain ⟨rfl, rfl⟩ := Prod.mk.inj (Option.some.inj h)
    simp [unquote, hd]
  | case6 c d r hc ih =>
    obtain ⟨⟨s, v⟩, hs, e⟩ := Option.map_eq_some_iff.1 h
    obtain ⟨rfl, rfl⟩ := Prod.mk.inj e
    have rest := ih hs
    rw [List.cons_append] at rest
    simp [unquote, hc, rest]

theorem length_lt_of_unquote {q : Char} {s t rest : List Char} (h : unquote q s = some (t, rest)) :
    rest.length < s.length := by
  fun_induction unquote q s generalizing t with
  | case1 => simp at h
  | case2 => simp_all
  | case3 => simp at h
  | case4 r ih =>
    obtain ⟨u, hu, hv⟩ := Option.map_eq_some_iff.1 h
    obtain ⟨-, rfl⟩ := Prod.mk.inj hv
    have := ih hu
    simp only [List.length_cons]
    omega
  | case5 =>
    obtain ⟨-, rfl⟩ := Prod.mk.inj (Option.some.inj h)
    simp
  | case6 c d r _ ih =>
    obtain ⟨u, hu, hv⟩ := Option.map_eq_some_iff.1 h
    obtain ⟨-, rfl⟩ := Prod.mk.inj hv
    have := ih hu
    simp only [List.length_cons] at this ⊢
    omega

end TagSearch.Text
