/-!
# Similar texts

How much two texts have in common. Their longest common block is matched, then what stands in front
of it in both, and what stands behind it. Texts are similar if at least three fifths of their
characters are matched.

* `matched` counts the matched characters of a text.
* `closest` picks the candidates that are most similar to a word.
-/

namespace TagSearch.Text

/-- A block of a text that stands in another one: where it starts in both, and its length. -/
structure Block where
  left : Nat
  right : Nat
  size : Nat
  deriving DecidableEq, Repr

/-- The length of the longest common start of two texts. -/
def commonStart : List Char → List Char → Nat
  | c :: s, d :: t => if c = d then commonStart s t + 1 else 0
  | _, _ => 0

/-- The longest block at the start of `s` that stands in a text, the first one of several. -/
def startBlock (s : List Char) : List Char → Block
  | [] => ⟨0, 0, 0⟩
  | d :: t =>
    let later := startBlock s t
    let size := commonStart s (d :: t)
    if later.size ≤ size then ⟨0, 0, size⟩ else ⟨0, later.right + 1, later.size⟩

/-- The longest common block of two texts. Of several it is the first one in the left text, and of
these the first one in the right text. -/
def longestBlock : List Char → List Char → Block
  | [], _ => ⟨0, 0, 0⟩
  | c :: s, t =>
    let here := startBlock (c :: s) t
    let later := longestBlock s t
    if later.size ≤ here.size then ⟨0, here.right, here.size⟩
    else ⟨later.left + 1, later.right, later.size⟩

theorem left_longestBlock_lt {s t : List Char} (h : 0 < (longestBlock s t).size) :
    (longestBlock s t).left < s.length := by
  induction s with
  | nil => simp [longestBlock] at h
  | cons c s ih =>
    simp only [longestBlock] at h ⊢
    split
    · simp
    · next hlt => exact Nat.succ_lt_succ (ih (by omega))

/-- The number of characters of a text that are matched with those of another one. -/
def matched (s t : List Char) : Nat :=
  let b := longestBlock s t
  if _h : 0 < b.size then
    matched (s.take b.left) (t.take b.right) + b.size +
      matched (s.drop (b.left + b.size)) (t.drop (b.right + b.size))
  else 0
termination_by s.length
decreasing_by
  · exact Nat.lt_of_le_of_lt (List.length_take_le ..) (left_longestBlock_lt _h)
  · rw [List.length_drop]
    exact Nat.sub_lt (Nat.zero_lt_of_lt (left_longestBlock_lt _h)) (Nat.add_pos_right _ _h)

/-- How similar two texts are: the number of matched characters in both, out of all. -/
def similarity (s t : String) : Nat × Nat :=
  (2 * matched s.toList t.toList, s.length + t.length)

/-- Whether at least three fifths of all characters are matched. -/
def areSimilar (s t : String) : Bool :=
  let (part, whole) := similarity s t
  3 * whole ≤ 5 * part

/-- Whether the first text is at least as similar to `word` as the second one. Of two that are
equally similar, the greater one goes first. -/
def isCloser (word s t : String) : Bool :=
  let (p, m) := similarity s word
  let (q, n) := similarity t word
  decide (q * m < p * n ∨ (q * m = p * n ∧ t ≤ s))

/-- The number of texts that are picked at most. -/
def closestCount : Nat := 3

/-- The candidates that are similar to a word, the most similar ones first. -/
def closest (word : String) (candidates : List String) : List String :=
  ((candidates.filter (areSimilar · word)).mergeSort (isCloser word)).take closestCount

end TagSearch.Text
