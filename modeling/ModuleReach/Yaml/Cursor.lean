import ModuleReach.Yaml.Fault

/-!
# Places in a document

A place in a document is what follows it, together with its distance from the start, its line, and its column.  The end
of a document shows as the character with number zero, which no document holds.

## Main definitions

* `Yaml.Cursor` — the places; `Yaml.Cursor.ofText` is the start of a text.
* `Yaml.Cursor.peek`, `Yaml.Cursor.look` — the next character, and one further on.
* `Yaml.Cursor.advance`, `Yaml.Cursor.skip`, `Yaml.Cursor.run` — later places.
* `Yaml.Cursor.lineBreak` — the line break at a place.
* `Yaml.isPrintable` — the characters that a document may hold.
-/

namespace ModuleReach.Yaml

/-! ### Characters -/

/-- The character that stands for the end of a document. -/
def endMark : Char := '\x00'

/-- Whether a document may hold a character. -/
def isPrintable (c : Char) : Bool :=
  let n := c.toNat
  n == 0x09 || n == 0x0A || n == 0x0D || (0x20 ≤ n && n ≤ 0x7E) || n == 0x85 ||
    (0xA0 ≤ n && n ≤ 0xD7FF) || (0xE000 ≤ n && n ≤ 0xFFFD) || 0x10000 ≤ n

/-- Whether a character breaks a line. -/
def isBreak (c : Char) : Bool :=
  c == '\n' || c == '\r' || c == '\x85' || c == '\u2028' || c == '\u2029'

/-- Whether a line ends before a character. -/
def endsLine (c : Char) : Bool := c == endMark || isBreak c

/-- Whether a line ends or goes on with a space. -/
def endsField (c : Char) : Bool := endsLine c || c == ' '

/-- Whether a line ends or goes on with a space or tab. -/
def endsWord (c : Char) : Bool := endsField c || c == '\t'

/-- Whether a character can be in the name of an anchor, a directive or a tag handle. -/
def isNameChar (c : Char) : Bool := c.isAlphanum || c == '-' || c == '_'

/-! ### Places -/

/-- A place in a document. -/
structure Cursor where
  /-- What follows the place. -/
  rest : List Char
  /-- The number of characters before it. -/
  index : Nat
  /-- The number of line breaks before it. -/
  line : Nat
  /-- The number of characters before it on its line. -/
  column : Nat

namespace Cursor

/-- The start of a text. -/
def ofText (text : List Char) : Cursor := ⟨text, 0, 0, 0⟩

/-- The character `n` places on. -/
def look (c : Cursor) (n : Nat) : Char := c.rest.getD n endMark

/-- The next character. -/
def peek (c : Cursor) : Char := c.look 0

/-- The place one character on.  A byte-order mark takes no column. -/
def next (c : Cursor) : Cursor :=
  match c.rest with
  | [] => c
  | d :: rest =>
    if isBreak d && !(d == '\r' && rest.head? == some '\n') then
      ⟨rest, c.index + 1, c.line + 1, 0⟩
    else if d == '\ufeff' then ⟨rest, c.index + 1, c.line, c.column⟩
    else ⟨rest, c.index + 1, c.line, c.column + 1⟩

/-- The place `n` characters on. -/
def advance (c : Cursor) : Nat → Cursor
  | 0 => c
  | n + 1 => c.next.advance n

/-- The characters from a place on that satisfy `p`. -/
def run (c : Cursor) (p : Char → Bool) : List Char := c.rest.takeWhile p

/-- The place after the characters that satisfy `p`. -/
def skip (c : Cursor) (p : Char → Bool) : Cursor := c.advance (c.run p).length

/-- Whether a text stands at a place. -/
def sees (c : Cursor) (text : List Char) : Bool := text.isPrefixOf c.rest

/-- The line break at a place as it counts in a scalar, and the place after it; nothing if there is none. -/
def lineBreak (c : Cursor) : List Char × Cursor :=
  if c.sees ['\r', '\n'] then (['\n'], c.advance 2)
  else if c.peek == '\n' || c.peek == '\r' || c.peek == '\x85' then (['\n'], c.next)
  else if c.peek == '\u2028' || c.peek == '\u2029' then ([c.peek], c.next)
  else ([], c)

/-- The place after the blanks and the comment at the end of a line and after its break, if nothing else is there. -/
def endOfLine? (c : Cursor) : Option Cursor :=
  let c := c.skip (· == ' ')
  let c := if c.peek == '#' then c.skip (!endsLine ·) else c
  if endsLine c.peek then some c.lineBreak.2 else none

/-- Whether a line that consists of a document mark begins at a place. -/
def seesDocumentMark (c : Cursor) : Bool :=
  (c.sees ['-', '-', '-'] || c.sees ['.', '.', '.']) && endsWord (c.look 3)

end Cursor

end ModuleReach.Yaml
