import ModuleReach.Layout.Basic
import ModuleReach.Text.Blank
import ModuleReach.Text.Columns
import ModuleReach.Text.Split

/-!
# Lines of bounded width

A text is cut into lines that fit a number of columns.  A line is filled with words as long as they fit; the blanks after a word stay with it
and may hang over the edge, where they are dropped.  A word that is wider than a whole line is either folded onto several lines or
put on a line of its own and cut short there.

## Main definitions

* `Layout.words` — the words of a line, each with the blanks after it.
* `Layout.fill` — words put on lines.
* `Layout.lines` — a text on lines of a given width.

## Main results

* `Layout.flatten_words` — the words together are the line, if it has a word at all.
-/

namespace ModuleReach.Layout

open Text

/-- What becomes of a word that is wider than a line. -/
inductive Overflow
  /-- It goes on on the next line. -/
  | fold
  /-- It is cut short, with dots in place of what is missing. -/
  | ellipsis
  deriving DecidableEq, Repr

/-! ### Words -/

/-- Whether a character belongs to a word. -/
def isInk (c : Char) : Bool := !isBlank c

/-- The words of a line, each with the blanks after it; blanks at the front go with the first. -/
def words (s : List Char) : List (List Char) :=
  match _h : s.dropWhile isBlank with
  | [] => []
  | c :: rest =>
    let after := rest.dropWhile isInk
    (s.takeWhile isBlank ++ c :: rest.takeWhile isInk ++ after.takeWhile isBlank) ::
      words (after.dropWhile isBlank)
termination_by s.length
decreasing_by
  have h₁ := (List.dropWhile_sublist isBlank (l := s)).length_le
  have h₂ := (List.dropWhile_sublist isInk (l := rest)).length_le
  have h₃ := (List.dropWhile_sublist isBlank (l := rest.dropWhile isInk)).length_le
  rw [_h] at h₁
  simp only [List.length_cons] at h₁
  omega

/-- The words together are the line, if it has a word at all. -/
theorem flatten_words (s : List Char) : words s = [] ∨ (words s).flatten = s := by
  fun_induction words s with
  | case1 => exact Or.inl rfl
  | case2 s c rest hs after ih =>
    refine Or.inr ?_
    have hsplit : s.takeWhile isBlank ++ c :: rest = s := by
      rw [← hs, List.takeWhile_append_dropWhile]
    have hrest : rest.takeWhile isInk ++ after = rest := List.takeWhile_append_dropWhile
    have hafter : after.takeWhile isBlank ++ after.dropWhile isBlank = after :=
      List.takeWhile_append_dropWhile
    have htail : (words (after.dropWhile isBlank)).flatten = after.dropWhile isBlank := by
      rcases ih with h | h
      · have : after.dropWhile isBlank = [] := by
          cases hd : after.dropWhile isBlank with
          | nil => rfl
          | cons d tail =>
            rw [words] at h
            split at h
            · rename_i hnil
              have hd' : isBlank d = false := by
                simpa [hd] using List.head_dropWhile_not (l := after) isBlank (by simp [hd])
              rw [hd, List.dropWhile_cons_of_neg (by simp [hd'])] at hnil
              cases hnil
            · cases h
        rw [h, this]; rfl
      · exact h
    simp only [List.flatten_cons, htail, List.append_assoc, List.cons_append, hafter, hrest, hsplit]

/-- A text without the blanks at its end. -/
def trimEnd (s : List Char) : List Char := (s.reverse.dropWhile isBlank).reverse

/-! ### Filling lines -/

/-- The pieces of a word after `line`, which takes `used` columns; each piece takes at most `width` columns if every character does. -/
def foldFrom (width : Nat) (line : List Char) (used : Nat) : List Char → List (List Char)
  | [] => [line]
  | c :: rest =>
    if used + charColumns c ≤ width then foldFrom width (line ++ [c]) (used + charColumns c) rest
    else line :: foldFrom width [c] (charColumns c) rest

/-- A line that is finished; there is none before the first word. -/
def finished (line : List Char) : List (List Char) := if line = [] then [] else [line]

/-- Words put on lines after `line`, of which `used` columns are taken. -/
def fillFrom (overflow : Overflow) (width : Nat) (line : List Char) (used : Nat) :
    List (List Char) → List (List Char)
  | [] => [line]
  | word :: rest =>
    let size := columns (trimEnd word)
    if used + size ≤ width then
      fillFrom overflow width (line ++ word) (used + columns word) rest
    else if size ≤ width then finished line ++ fillFrom overflow width word (columns word) rest
    else
      match overflow with
      | .ellipsis => finished line ++ fillFrom overflow width word (columns word) rest
      | .fold =>
        let pieces := foldFrom width [] 0 word
        let last := pieces.getLastD []
        finished line ++ pieces.dropLast ++ fillFrom overflow width last (columns last) rest

/-- A line cut into lines of a given width. -/
def fill (overflow : Overflow) (width : Nat) (s : List Char) : List (List Char) :=
  match words s with
  | [] => [s]
  | words => fillFrom overflow width [] 0 words

/-! ### Placing text on lines -/

/-- That many spaces. -/
def spaces (n : Nat) : List Char := List.replicate n ' '

/-- A line without the blanks at its end that hang over the edge. -/
def dropHanging (width : Nat) (line : List Char) : List Char :=
  line.take (line.length - min (line.length - width) (line.reverse.takeWhile isBlank).length)

/-- The characters of a line that fit a width. -/
def fitting (width : Nat) : List Char → List Char
  | [] => []
  | c :: rest => if charColumns c ≤ width then c :: fitting (width - charColumns c) rest else []

/-- A line with spaces up to a width. -/
def padEnd (width : Nat) (line : List Char) : List Char := line ++ spaces (width - columns line)

/-- A line cut to a width; one that fits stays as it is. -/
def cut (overflow : Overflow) (width : Nat) (line : List Char) : List Char :=
  if columns line ≤ width then line
  else
    match overflow with
    | .fold => padEnd width (fitting width line)
    | .ellipsis => padEnd (width - 1) (fitting (width - 1) line) ++ ['…']

/-- A line with its text at the side where it should stand. -/
def place (side : Side) (overflow : Overflow) (width : Nat) (line : List Char) : List Char :=
  match side with
  | .plain => cut overflow width line
  | .left => padEnd width (cut overflow width line)
  | .centre =>
    let line := cut overflow width (trimEnd line)
    padEnd width (spaces ((width - columns line) / 2) ++ line)
  | .right =>
    let line := cut overflow width (trimEnd line)
    spaces (width - columns line) ++ line

/-- A text on lines of a given width. -/
def lines (side : Side) (overflow : Overflow) (width : Nat) (s : List Char) : List (List Char) :=
  (splitWhere (· == '\n') s).flatMap fun line =>
    (fill overflow width line).map fun l => place side overflow width (dropHanging width l)

/-- The columns of the widest line of a text. -/
def widest (s : List Char) : Nat := ((splitWhere (· == '\n') s).map columns).foldl max 0

end ModuleReach.Layout
