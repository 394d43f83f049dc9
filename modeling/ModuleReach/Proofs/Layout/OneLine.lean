import Mathlib.Data.List.Basic
import ModuleReach.Layout.Table
import ModuleReach.Proofs.Path.Canonical

/-!
# Texts that take one line

A typewritten text takes one column for each of its characters.  If it fits its place, it is put on one line as it is,
with spaces up to the end of the line at most.  So a table with one column of such texts has one line for each of them,
in which the text stands between the borders.

## Main definitions

* `Text.Typewritten` — the texts of printable ASCII characters.
* `Layout.Table.ofTexts` — the tables with one column.
* `Layout.Table.boxed`, `Layout.Table.listing` — a text between borders, and a list of texts in such lines.

## Main results

* `Layout.fill_of_le`, `Layout.lines_left_of_le` — a text that fits takes one line.
* `Layout.Table.render_list` — the lines of a table with one column.
-/

namespace ModuleReach

namespace Text

/-- A text of printable ASCII characters. -/
def Typewritten (s : List Char) : Prop := ∀ c ∈ s, ' ' ≤ c ∧ c ≤ '~'

instance (s : List Char) : Decidable (Typewritten s) := List.decidableBAll (fun c => ' ' ≤ c ∧ c ≤ '~') s

namespace Typewritten

variable {s t : List Char}

theorem of_subset (h : Typewritten s) (hsub : t ⊆ s) : Typewritten t := fun c hc => h c (hsub hc)

theorem columns_eq (h : Typewritten s) : columns s = s.length := columns_of_printable h

/-- No line ends in a typewritten text. -/
theorem splitWhere_eq (h : Typewritten s) : splitWhere (· == '\n') s = [s] := by
  refine splitWhere_of_forall_not fun c hc => beq_eq_false_iff_ne.2 ?_
  rintro rfl
  exact absurd (h _ hc) (by decide)

end Typewritten

end Text

namespace Layout

open Text

variable {overflow : Overflow} {width : Nat} {s : List Char}

/-! ### One line -/

theorem trimEnd_subset (s : List Char) : trimEnd s ⊆ s := by
  intro c hc
  exact List.mem_reverse.1 ((List.dropWhile_sublist isBlank).subset (List.mem_reverse.1 hc))

theorem length_trimEnd_le (s : List Char) : (trimEnd s).length ≤ s.length := by
  have h := (List.dropWhile_sublist isBlank (l := s.reverse)).length_le
  rwa [List.length_reverse, ← List.length_reverse] at h

/-- Words that fit all together stay on the line. -/
theorem fillFrom_of_le {words : List (List Char)} {line : List Char}
    (h : Typewritten (line ++ words.flatten)) (hle : (line ++ words.flatten).length ≤ width) :
    fillFrom overflow width line line.length words = [line ++ words.flatten] := by
  induction words generalizing line with
  | nil => simp [fillFrom]
  | cons word rest ih =>
    rw [List.flatten_cons, ← List.append_assoc] at h hle ⊢
    have hword : Typewritten word := h.of_subset fun c hc => by simp [hc]
    have htrim : columns (trimEnd word) ≤ word.length := by
      rw [(hword.of_subset (trimEnd_subset word)).columns_eq]
      exact length_trimEnd_le word
    have hfits : line.length + columns (trimEnd word) ≤ width := by
      simp only [List.length_append] at hle
      omega
    unfold fillFrom
    dsimp only
    rw [if_pos hfits, hword.columns_eq, ← List.length_append, ih h hle]

/-- A text that fits takes one line. -/
theorem fill_of_le (h : Typewritten s) (hle : s.length ≤ width) : fill overflow width s = [s] := by
  unfold fill
  split
  · rfl
  · rename_i hwords
    have hflat : (words s).flatten = s := (flatten_words s).resolve_left hwords
    have hfill := @fillFrom_of_le overflow width (words s) [] (by rwa [List.nil_append, hflat])
      (by rwa [List.nil_append, hflat])
    rwa [List.nil_append, hflat] at hfill

/-- Nothing hangs over the edge of a line that fits. -/
theorem dropHanging_of_le (hle : s.length ≤ width) : dropHanging width s = s := by
  rw [dropHanging, Nat.sub_eq_zero_of_le hle, Nat.zero_min, Nat.sub_zero, List.take_length]

theorem length_spaces (n : Nat) : (spaces n).length = n := List.length_replicate

theorem typewritten_append_spaces (h : Typewritten s) (n : Nat) : Typewritten (s ++ spaces n) := by
  intro c hc
  rcases List.mem_append.1 hc with hc | hc
  · exact h c hc
  · rw [List.eq_of_mem_replicate hc]
    decide

theorem padEnd_of_typewritten (h : Typewritten s) : padEnd width s = s ++ spaces (width - s.length) := by
  rw [padEnd, h.columns_eq]

/-- A text that fits stands at the left of its one line. -/
theorem lines_left_of_le (h : Typewritten s) (hle : s.length ≤ width) :
    lines .left overflow width s = [s ++ spaces (width - s.length)] := by
  have hcut : cut overflow width s = s := by
    unfold cut
    rw [if_pos (by rwa [h.columns_eq])]
  rw [lines, h.splitWhere_eq, List.flatMap_singleton, fill_of_le h hle, List.map_singleton, dropHanging_of_le hle,
    place, hcut, padEnd_of_typewritten h]

/-! ### Tables with one column -/

namespace Table

/-- The table with one column of texts. -/
def ofTexts (title heading : String) (texts : List (List Char)) : Table :=
  ⟨title, [⟨heading, .left⟩], texts.map fun s => [s]⟩

/-- A text in a cell of a given width between two borders. -/
def boxed (border : Char) (width : Nat) (s : List Char) : List Char :=
  border :: ' ' :: s ++ spaces (width - s.length) ++ [' ', border]

/-- The length of the longest of some texts. -/
def longest (texts : List (List Char)) : Nat := (texts.map List.length).foldl max 0

/-- The lines of a table of texts that stand on one line each: over it the title, and a heading on top. -/
def listing (title heading : String) (texts : List (List Char)) : List (List Char) :=
  let width := longest (heading.toList :: texts)
  lines .centre .fold (width + 4) title.toList ++
    [rule '┏' '━' '┳' '┓' [width + 2], boxed '┃' width heading.toList, rule '┡' '━' '╇' '┩' [width + 2]] ++
    texts.map (boxed '│' width) ++ [rule '└' '─' '┴' '┘' [width + 2]]

theorem foldl_max_le_iff {lengths : List Nat} {start bound : Nat} :
    lengths.foldl max start ≤ bound ↔ start ≤ bound ∧ ∀ n ∈ lengths, n ≤ bound := by
  induction lengths generalizing start with
  | nil => simp
  | cons n rest ih => rw [List.foldl_cons, ih, Nat.max_le, List.forall_mem_cons, and_assoc]

theorem longest_le_iff {texts : List (List Char)} {bound : Nat} :
    longest texts ≤ bound ↔ ∀ s ∈ texts, s.length ≤ bound := by
  simp [longest, foldl_max_le_iff]

/-- A text that fits its cell takes one line there. -/
theorem cell_left_of_le (h : Typewritten s) (hle : s.length ≤ width) :
    cell .left (width + padding) s = [' ' :: s ++ spaces (width - s.length) ++ [' ']] := by
  have hlength : (s ++ spaces (width - s.length)).length = width := by
    rw [List.length_append, length_spaces]
    omega
  have hpad : padEnd width (s ++ spaces (width - s.length)) = s ++ spaces (width - s.length) := by
    rw [padEnd_of_typewritten (typewritten_append_spaces h _), hlength, Nat.sub_self]
    exact List.append_nil _
  rw [cell, Nat.add_sub_cancel, lines_left_of_le h hle, List.map_singleton, hpad]
  rfl

/-- So does the row that has no other cell. -/
theorem row_of_le {heading : String} {border : Char} {hanging : Bool} (h : Typewritten s) (hle : s.length ≤ width) :
    row border hanging [⟨heading, .left⟩] [width + 2] [s] = [boxed border width s] := by
  have hcell := cell_left_of_le h hle
  rw [padding] at hcell
  simp only [row, rowLines, List.zip_cons_cons, List.zip_nil_left, List.map_cons, List.map_nil, hcell]
  cases hanging <;> simp [boxed, joinWith]

/-- Widths that fit the page stay as they are. -/
theorem narrow_of_le {page rounds : Nat} {widths : List Nat} (h : total widths ≤ page) :
    narrow page rounds widths = widths := by
  cases rounds with
  | zero => rfl
  | succ rounds =>
    rw [narrow]
    dsimp only
    rw [if_pos (.inl (Nat.sub_eq_zero_of_le h))]

section List

variable {title heading : String} {texts : List (List Char)} {page : Nat}

/-- The one column is as wide as its longest text, and two blanks. -/
theorem widths_list (h : ∀ s ∈ heading.toList :: texts, Typewritten s ∧ s.length + 4 ≤ page) :
    (ofTexts title heading texts).widths page = [longest (heading.toList :: texts) + 2] := by
  have hwidest : ∀ s ∈ heading.toList :: texts, widest s = s.length := by
    intro s hs
    rw [widest, (h s hs).1.splitWhere_eq, List.map_singleton, (h s hs).1.columns_eq]
    exact Nat.max_eq_right (Nat.zero_le _)
  have hcells : (texts.map fun s => [s]).map (fun row => row.getD 0 []) = texts := by
    rw [List.map_map]
    exact List.map_id texts
  have hneeded : (ofTexts title heading texts).needed 0 ⟨heading, .left⟩ = longest (heading.toList :: texts) + 2 := by
    rw [needed, Table.texts, ofTexts, hcells, List.map_congr_left hwidest, longest, padding]
  have hpage : longest (heading.toList :: texts) + 2 ≤ page - borders 1 := by
    have hfour : heading.toList.length + 4 ≤ page := (h _ List.mem_cons_self).2
    have hle : longest (heading.toList :: texts) ≤ page - 4 :=
      longest_le_iff.2 fun s hs => Nat.le_sub_of_add_le (h s hs).2
    rw [borders]
    omega
  have hwanted : ([⟨heading, .left⟩] : List Column).mapIdx (fun i column =>
      min ((ofTexts title heading texts).needed i column) (page - borders 1)) =
      [longest (heading.toList :: texts) + 2] := by
    rw [List.mapIdx_cons, List.mapIdx_nil, hneeded, Nat.min_eq_left hpage]
  have hcolumns : (ofTexts title heading texts).columns = [⟨heading, .left⟩] := rfl
  rw [widths, hcolumns, List.length_singleton, hwanted, narrow_of_le]
  rw [total, List.foldl_cons, List.foldl_nil, Nat.zero_add]
  exact hpage

/-- **One line for each text.**  A table with one column of texts that fit the page is the list of them. -/
theorem render_list (h : ∀ s ∈ heading.toList :: texts, Typewritten s ∧ s.length + 4 ≤ page) :
    (ofTexts title heading texts).render page = listing title heading texts := by
  have hlongest : ∀ s ∈ heading.toList :: texts, s.length ≤ longest (heading.toList :: texts) :=
    longest_le_iff.1 (Nat.le_refl _)
  have hhead : row '┃' false [⟨heading, .left⟩] [longest (heading.toList :: texts) + 2] [heading.toList] =
      [boxed '┃' (longest (heading.toList :: texts)) heading.toList] :=
    row_of_le (h _ List.mem_cons_self).1 (hlongest _ List.mem_cons_self)
  have hrows : (texts.map fun s => [s]).flatMap
      (row '│' true [⟨heading, .left⟩] [longest (heading.toList :: texts) + 2]) =
      texts.map (boxed '│' (longest (heading.toList :: texts))) := by
    rw [List.flatMap_map, List.map_eq_flatMap]
    refine List.flatMap_congr fun s hs => ?_
    exact row_of_le (h s (List.mem_cons_of_mem _ hs)).1 (hlongest s (List.mem_cons_of_mem _ hs))
  rw [render, widths_list h]
  dsimp only [ofTexts]
  rw [List.map_singleton, hhead, hrows, total, List.foldl_cons, List.foldl_nil, borders, listing]
  simp

end List

end Table

end Layout

end ModuleReach
