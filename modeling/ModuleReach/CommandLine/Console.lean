import ModuleReach.Layout.Basic
import ModuleReach.Markup.Fault

/-!
# Consoles

A console lays out for readers what the command line has to show them.  The texts in the cells of a table are read as markup
before they are laid out; the text in a panel is not.  How markup is read and how lines are drawn is the business of the
console that is used.

## Main definitions

* `pageWidth` — the columns of a page.
* `Console` — the consoles.
-/

namespace ModuleReach.CommandLine

/-- The columns of a page. -/
def pageWidth : Nat := 80

/-- What lays out texts for readers. -/
structure Console where
  /-- The characters that are shown of a text which is read as markup. -/
  shown : List Char → Except Markup.Fault (List Char)
  /-- The lines of a table on a page. -/
  table : Layout.Table → List (List Char)
  /-- The lines of a panel on a page, with a title and a text. -/
  panel : (title text : List Char) → List (List Char)

end ModuleReach.CommandLine
