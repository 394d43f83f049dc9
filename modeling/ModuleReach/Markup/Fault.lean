import ModuleReach.Text.Blank

/-!
# Faults of markup

A text that is read as markup may have tags in brackets.  The one thing that can be wrong with it is a tag that closes what is
not open.

## Main definitions

* `Markup.Fault` — a closing tag that closes nothing.
-/

namespace ModuleReach.Markup

/-- A closing tag that closes nothing. -/
inductive Fault
  /-- No tag of this name is open. -/
  | notOpen (name : List Char)
  /-- No tag is open. -/
  | nothingOpen
  deriving DecidableEq, Repr

/-- The fault in words. -/
def Fault.message : Fault → String
  | notOpen name => "closing tag '[/" ++ String.ofList name ++ "]' doesn't match any open tag"
  | nothingOpen => "closing tag '[/]' has nothing to close"

end ModuleReach.Markup
