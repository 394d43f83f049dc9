import ModuleReach.Text.Hex
import ModuleReach.Text.Printable

/-!
# Quoted values

How a message shows a value that somebody else chose: in quotes, on one line, and with every
character that cannot be shown written as an escape.

## Main definitions

* `Text.quote` — a text as a message shows it.
-/

namespace ModuleReach.Text

/-- The mark that goes around a text: a single quote, unless the text holds a single quote and no double
one. -/
def quoteMark (s : List Char) : Char :=
  if '\'' ∈ s ∧ '"' ∉ s then '"' else '\''

/-- A character inside quotes.  The mark and the backslash are escaped, line breaks and tabs have short
escapes, and any other character that is not printable is written as a code point of two, four or
eight digits, whichever is the first to hold it. -/
def quoteChar (mark c : Char) : List Char :=
  if c = mark ∨ c = '\\' then ['\\', c]
  else if c = '\n' then ['\\', 'n']
  else if c = '\r' then ['\\', 'r']
  else if c = '\t' then ['\\', 't']
  else if isPrintable c then [c]
  else if c.toNat < 0x100 then '\\' :: 'x' :: hex 2 c.toNat
  else if c.toNat < 0x10000 then '\\' :: 'u' :: hex 4 c.toNat
  else '\\' :: 'U' :: hex 8 c.toNat

/-- A text as a message shows it. -/
def quote (s : String) : String :=
  let mark := quoteMark s.toList
  String.ofList (mark :: s.toList.flatMap (quoteChar mark) ++ [mark])

end ModuleReach.Text
