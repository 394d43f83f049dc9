/-!
# Similar texts

How much two texts have in common.  Their longest common block is taken out of both, the earliest one if there are several, and then the parts before it and the
parts after it are compared in the same way.  Two texts are close if the characters in common make up three fifths
of both.

## Main definitions

* `Text.Block`, `Text.longestBlock` — a block that two texts have in common.
* `Text.commonBy`, `Text.common` — the number of characters in common.
* `Text.closest` — the texts of a list that are closest to a given one.

## Main results

* `Text.common_le_length` — no more characters are in common than a text has.
-/

namespace ModuleReach.Text

/-- A block that two texts have in common: where it begins in each, and its length. -/
structure Block where
  left : Nat
  right : Nat
  size : Nat
  deriving DecidableEq, Repr

/-- The number of characters that two texts share at their fronts. -/
def commonFront : List Char → List Char → Nat
  | c :: s, d :: t => if c = d then commonFront s t + 1 else 0
  | _, _ => 0

/-- The longest common block of two texts, the earliest in `s` and then the earliest in `t`. -/
def longestBlock (s t : List Char) : Block :=
  let blocks := (List.range s.length).flatMap fun i =>
    (List.range t.length).map fun j => ⟨i, j, commonFront (s.drop i) (t.drop j)⟩
  blocks.foldl (fun best b => if best.size < b.size then b else best) ⟨0, 0, 0⟩

/-- The number of characters that two texts have in common, if `block` finds a block of both. -/
def commonBy (block : List Char → List Char → Block) (s t : List Char) : Nat :=
  if _h : 0 < (block s t).size ∧ (block s t).left + (block s t).size ≤ s.length then
    (block s t).size + commonBy block (s.take (block s t).left) (t.take (block s t).right) +
      commonBy block (s.drop ((block s t).left + (block s t).size))
        (t.drop ((block s t).right + (block s t).size))
  else 0
termination_by s.length
decreasing_by
  · rw [List.length_take]; omega
  · rw [List.length_drop]; omega

/-- The number of characters that two texts have in common. -/
def common (s t : List Char) : Nat := commonBy longestBlock s t

/-- No more characters are in common than a text has. -/
theorem common_le_length (s t : List Char) : common s t ≤ s.length := by
  unfold common
  fun_induction commonBy longestBlock s t with
  | case1 s t h ih₁ ih₂ =>
    rw [List.length_take] at ih₁
    rw [List.length_drop] at ih₂
    omega
  | case2 => exact Nat.zero_le _

/-- Whether two texts are close. -/
def areClose (s t : List Char) : Bool := 3 * (s.length + t.length) ≤ 10 * common s t

/-- Whether the first of two texts comes first in the order of closeness to a word; of equally close texts, the last in the order of
code points does. -/
def isCloserTo (word : String) (a b : String) : Bool :=
  let score (x : String) := common x.toList word.toList
  let size (x : String) := x.length + word.length
  let here := score a * size b
  let there := score b * size a
  there < here || (here == there && decide (b ≤ a))

/-- The texts of a list that are closest to a word, three at most, in the order of code points. -/
def closest (word : String) (options : List String) : List String :=
  let close := options.filter fun option => areClose option.toList word.toList
  ((close.mergeSort (isCloserTo word)).take 3).mergeSort fun a b => decide (a ≤ b)

end ModuleReach.Text
