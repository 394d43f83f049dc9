/-!
# Tables

A table has a title, columns with headings, and rows of cells.  In the cells stand the texts that are shown.

## Main definitions

* `Layout.Side` — where on its line a text stands.
* `Layout.Table` — the tables.
-/

namespace ModuleReach.Layout

/-- Where on its line a text stands. -/
inductive Side
  /-- At the left, as it is. -/
  | plain
  /-- At the left, with blanks up to the end of the line. -/
  | left
  /-- In the middle; the odd blank goes to the right. -/
  | centre
  /-- At the right. -/
  | right
  deriving DecidableEq, Repr

/-- The heading of a column, and the side at which its texts stand. -/
structure Column where
  heading : String
  side : Side := .left

/-- A table. -/
structure Table where
  title : String
  columns : List Column
  /-- The texts in the cells of each row, in the order of the columns. -/
  rows : List (List (List Char))

end ModuleReach.Layout
