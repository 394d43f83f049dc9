import ModuleReach.Layout.Line

/-!
# The lines of a table

A table is as wide as its texts need, unless that is wider than the page; then the widest columns give way first.  The title
stands in the middle over the table and is wrapped to the table's width.

## Main definitions

* `Layout.Table.widths` — the widths of the columns, on a page of a given width.
* `Layout.Table.render` — the lines of a table.
-/

namespace ModuleReach.Layout

namespace Table

/-! ### Widths -/

/-- The columns that the borders of a table with `n` columns take. -/
def borders (n : Nat) : Nat := n + 1

/-- The columns of the blanks at the two sides of a cell. -/
def padding : Nat := 2

/-- The texts of the column at an index, from the heading on. -/
def texts (t : Table) (i : Nat) (column : Column) : List (List Char) :=
  column.heading.toList :: t.rows.map fun row => row.getD i []

/-- The width that the texts of a column need. -/
def needed (t : Table) (i : Nat) (column : Column) : Nat :=
  ((t.texts i column).map widest).foldl max 0 + padding

/-- What columns of given widths take together. -/
def total (widths : List Nat) : Nat := widths.foldl (· + ·) 0

/-- The quotient of two numbers, rounded to the nearest whole number, and to the nearest even one if two are equally near. -/
def roundedQuotient (a b : Nat) : Nat :=
  let q := a / b
  let twice := 2 * (a % b)
  if twice < b then q else if b < twice then q + 1 else if q % 2 = 0 then q else q + 1

/-- Widths after taking `excess` away from those of `givers`, in equal parts but from none more than `limit`. -/
def takeAway (limit : Nat) (givers excess : Nat) : List (Bool × Nat) → List Nat
  | [] => []
  | (false, width) :: rest => width :: takeAway limit givers excess rest
  | (true, width) :: rest =>
    let part := min limit (roundedQuotient excess givers)
    (width - part) :: takeAway limit (givers - 1) (excess - part) rest

/-- Widths after some rounds in which the widest are made narrower, at most down to the next width. -/
def narrow (page : Nat) : Nat → List Nat → List Nat
  | 0, widths => widths
  | rounds + 1, widths =>
    let excess := total widths - page
    let top := widths.foldl max 0
    let next := (widths.filter (· ≠ top)).foldl max 0
    if excess = 0 ∨ top = 0 then widths
    else
      let marked := widths.map fun w => (w == top, w)
      narrow page rounds
        (takeAway (min excess (top - next)) (widths.count top) excess marked)

/-- The widths of the columns, with the blanks at their sides, on a page of a given width. -/
def widths (t : Table) (page : Nat) : List Nat :=
  let room := page - borders t.columns.length
  let wanted := t.columns.mapIdx fun i column => min (t.needed i column) room
  narrow room (total wanted) wanted

/-! ### Lines -/

/-- A line with the same character under each column, and given ones at the borders. -/
def rule (first line between last : Char) (widths : List Nat) : List Char :=
  first :: Text.joinWith [between] (widths.map fun w => List.replicate w line) ++ [last]

/-- The lines of a cell of a given width, with the blanks at its sides. -/
def cell (side : Side) (width : Nat) (text : List Char) : List (List Char) :=
  (lines side .ellipsis (width - padding) text).map fun line =>
    ' ' :: padEnd (width - padding) line ++ [' ']

/-- The lines of a row whose cells are given with their widths; cells that are lower than others are filled with blank lines, at their top if
`hanging` is false. -/
def rowLines (border : Char) (hanging : Bool) (cells : List (Nat × List (List Char))) :
    List (List Char) :=
  let height := (cells.map fun c => c.2.length).foldl max 1
  let filled := cells.map fun c =>
    let blank := List.replicate (height - c.2.length) (spaces c.1)
    if hanging then c.2 ++ blank else blank ++ c.2
  (List.range height).map fun i =>
    border :: Text.joinWith [border] (filled.map fun c => c.getD i []) ++ [border]

/-- The lines of a row of texts. -/
def row (border : Char) (hanging : Bool) (columns : List Column) (widths : List Nat)
    (texts : List (List Char)) : List (List Char) :=
  rowLines border hanging (((columns.zip widths).zip texts).map fun c =>
    (c.1.2, cell c.1.1.side c.1.2 c.2))

/-- The lines of a table on a page of a given width. -/
def render (t : Table) (page : Nat) : List (List Char) :=
  let widths := t.widths page
  lines .centre .fold (total widths + borders widths.length) t.title.toList ++
    [rule '┏' '━' '┳' '┓' widths] ++
    row '┃' false t.columns widths (t.columns.map fun c => c.heading.toList) ++
    [rule '┡' '━' '╇' '┩' widths] ++
    t.rows.flatMap (row '│' true t.columns widths) ++
    [rule '└' '─' '┴' '┘' widths]

end Table

end ModuleReach.Layout
