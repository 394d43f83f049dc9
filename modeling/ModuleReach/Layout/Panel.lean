import ModuleReach.Layout.Line

/-!
# Panels

A panel is a text in a frame as wide as the page, with a title in the middle of the frame's top.

## Main definitions

* `Layout.panel` — the lines of a panel.
-/

namespace ModuleReach.Layout

/-- A line of the frame, with a title in its middle; the odd stroke goes to the right. -/
def frameTop (page : Nat) (title : List Char) : List Char :=
  let title := cut .fold (page - 4) (' ' :: title ++ [' '])
  let strokes := page - 4 - Text.columns title
  '╭' :: '─' :: List.replicate (strokes / 2) '─' ++ title ++
    List.replicate (strokes - strokes / 2) '─' ++ ['─', '╮']

/-- The lines of a panel on a page of a given width. -/
def panel (page : Nat) (title text : List Char) : List (List Char) :=
  let body := (lines .plain .fold (page - 4) text).map fun line =>
    '│' :: ' ' :: padEnd (page - 4) line ++ [' ', '│']
  [frameTop page title] ++ body ++ ['╰' :: List.replicate (page - 2) '─' ++ ['╯']]

end ModuleReach.Layout
