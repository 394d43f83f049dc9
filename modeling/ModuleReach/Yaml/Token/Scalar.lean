import ModuleReach.Text.Hex
import ModuleReach.Text.Utf8
import ModuleReach.Yaml.Cursor
import ModuleReach.Yaml.Token.Basic

/-!
# Scalars as they are written

A scalar is written plainly, in single or double quotes, or as a block after `|` or `>`.  In each style a break between two
lines is folded into a space, and a break more than one stands for itself; only a block after `|` keeps all of them.

Each function begins at a place in a document and gives the text together with the place where it ends.

## Main definitions

* `Yaml.Scalar.plain`, `Yaml.Scalar.quoted`, `Yaml.Scalar.block` — the text of a scalar in each style.
-/

namespace ModuleReach.Yaml.Scalar

/-- A result of reading at a place: a text with the place where it ends, or a fault. -/
abbrev Reading := Except DocumentFault (List Char × Cursor)

/-- What a line break with the empty lines after it becomes, where `first` is the break itself. -/
def folded (first more : List Char) : List Char :=
  if first ≠ ['\n'] then first ++ more else if more = [] then [' '] else more

/-! ### Plain scalars -/

/-- Whether a character has a meaning of its own in a flow collection. -/
def isFlowMark (c : Char) : Bool :=
  c == ',' || c == '[' || c == ']' || c == '\x7b' || c == '\x7d'

/-- The part of a plain scalar up to the next space, or up to something else that ends it. -/
def plainRun (flow : Bool) : List Char → List Char
  | [] => []
  | c :: rest =>
    let following := rest.headD endMark
    if endsWord c || (c == ':' && (endsWord following || (flow && isFlowMark following))) ||
        (flow && (isFlowMark c || c == '?')) then []
    else c :: plainRun flow rest

/-- The empty lines and the indentation after a line break, and whether they end before a document mark. -/
def plainBreaks : Nat → List Char → Cursor → List Char × Cursor × Bool
  | 0, more, c => (more, c, false)
  | fuel + 1, more, c =>
    if c.peek == ' ' then plainBreaks fuel more c.next
    else if isBreak c.peek then
      let (text, c) := c.lineBreak
      if c.seesDocumentMark then ([], c, true) else plainBreaks fuel (more ++ text) c
    else (more, c, false)

/-- What is between two parts of a plain scalar, with the place after it and whether a line was broken. -/
def plainSpace (c : Cursor) : List Char × Cursor × Bool :=
  let spaces := c.run (· == ' ')
  let c := c.skip (· == ' ')
  if isBreak c.peek then
    let (first, c) := c.lineBreak
    if c.seesDocumentMark then ([], c, true)
    else
      let (more, c, marked) := plainBreaks c.rest.length [] c
      (if marked then [] else folded first more, c, true)
  else (spaces, c, false)

/-- A plain scalar after the part `text`, which `space` separates from the next part.  The last component tells whether
the scalar ends at the beginning of a line. -/
def plainFrom (flow : Bool) (indent : Int) : Nat → List Char → List Char → Bool → Cursor →
    List Char × Cursor × Bool
  | 0, text, _, broken, c => (text, c, broken)
  | fuel + 1, text, space, broken, c =>
    let part := plainRun flow c.rest
    if c.peek == '#' || part.isEmpty then (text, c, broken)
    else
      let text := text ++ space ++ part
      let (space, c, broken) := plainSpace (c.advance part.length)
      if space.isEmpty || c.peek == '#' || (!flow && (c.column : Int) < indent) then (text, c, broken)
      else plainFrom flow indent fuel text space broken c

/-- A plain scalar, whose lines after the first are indented by at least `indent` outside flow collections.  The last
component tells whether the scalar ends at the beginning of a line. -/
def plain (flow : Bool) (indent : Int) (c : Cursor) : List Char × Cursor × Bool :=
  plainFrom flow indent (c.rest.length + 1) [] [] false c

/-! ### Quoted scalars -/

/-- What a character after a backslash stands for. -/
def escape? : Char → Option Char
  | '0' => some '\x00'
  | 'a' => some '\x07'
  | 'b' => some '\x08'
  | 't' => some '\t'
  | '\t' => some '\t'
  | 'n' => some '\n'
  | 'v' => some '\x0b'
  | 'f' => some '\x0c'
  | 'r' => some '\r'
  | 'e' => some '\x1b'
  | ' ' => some ' '
  | '"' => some '"'
  | '\\' => some '\\'
  | '/' => some '/'
  | 'N' => some '\x85'
  | '_' => some '\xa0'
  | 'L' => some '\u2028'
  | 'P' => some '\u2029'
  | _ => none

/-- The number of hexadecimal digits after a character that announces them. -/
def digitCount? : Char → Option Nat
  | 'x' => some 2
  | 'u' => some 4
  | 'U' => some 8
  | _ => none

/-- The number that hexadecimal digits give. -/
def hexNumber? (digits : List Char) : Option Nat :=
  digits.foldl (fun n d =>
    match n, Text.hexValue? d with
    | some n, some v => some (16 * n + v)
    | _, _ => none) (some 0)

/-- The character at an escape of `count` digits, and the place after it. -/
def hexEscape (count : Nat) (c : Cursor) : Reading :=
  let digits := c.rest.take count
  if digits.length < count then .error .malformed
  else
    match hexNumber? digits with
    | none => .error .malformed
    | some n =>
      if n < 0x110000 then .ok ([Char.ofNat n], c.advance count)
      else .error (.scalar .noSuchCharacter)

/-- The empty lines and the blanks after a line break. -/
def quotedBreaks : Nat → List Char → Cursor → Reading
  | 0, more, c => .ok (more, c)
  | fuel + 1, more, c =>
    if c.seesDocumentMark then .error .malformed
    else
      let c := c.skip fun d => d == ' ' || d == '\t'
      if isBreak c.peek then
        let (text, c) := c.lineBreak
        quotedBreaks fuel (more ++ text) c
      else .ok (more, c)

/-- The blanks and line breaks at a place in a quoted scalar. -/
def quotedSpace (c : Cursor) : Reading :=
  let isSpace := fun d : Char => d == ' ' || d == '\t'
  let spaces := c.run isSpace
  let c := c.skip isSpace
  if c.peek == endMark then .error .malformed
  else if isBreak c.peek then do
    let (first, c) := c.lineBreak
    let (more, c) ← quotedBreaks (c.rest.length + 1) [] c
    .ok (folded first more, c)
  else .ok (spaces, c)

/-- Whether a character stands for itself in a quoted scalar. -/
def isOrdinary (c : Char) : Bool := !(c == '\'' || c == '"' || c == '\\' || endsWord c)

/-- What is at a place in a quoted scalar up to the next blank, or up to the quote at its end. -/
def quotedPart (double : Bool) : Nat → List Char → Cursor → Reading
  | 0, text, c => .ok (text, c)
  | fuel + 1, text, c =>
    let text := text ++ c.run isOrdinary
    let c := c.skip isOrdinary
    if !double && c.peek == '\'' && c.look 1 == '\'' then
      quotedPart double fuel (text ++ ['\'']) (c.advance 2)
    else if (double && c.peek == '\'') || (!double && (c.peek == '"' || c.peek == '\\')) then
      quotedPart double fuel (text ++ [c.peek]) c.next
    else if double && c.peek == '\\' then
      let c := c.next
      match escape? c.peek, digitCount? c.peek with
      | some d, _ => quotedPart double fuel (text ++ [d]) c.next
      | none, some count => do
        let (d, c) ← hexEscape count c.next
        quotedPart double fuel (text ++ d) c
      | none, none =>
        if isBreak c.peek then do
          let (_, c) := c.lineBreak
          let (more, c) ← quotedBreaks (c.rest.length + 1) [] c
          quotedPart double fuel (text ++ more) c
        else .error .malformed
    else .ok (text, c)

/-- A quoted scalar after the part `text` of it, up to its last quote. -/
def quotedFrom (double : Bool) : Nat → List Char → Cursor → Reading
  | 0, _, _ => .error .malformed
  | fuel + 1, text, c => do
    let (part, c) ← quotedPart double (c.rest.length + 1) [] c
    let text := text ++ part
    if c.peek == (if double then '"' else '\'') then .ok (text, c.next)
    else
      let (space, c) ← quotedSpace c
      quotedFrom double fuel (text ++ space) c

/-- A scalar in quotes, from its first quote on. -/
def quoted (double : Bool) (c : Cursor) : Reading :=
  quotedFrom double (c.rest.length + 1) [] c.next

/-! ### Block scalars -/

/-- What becomes of the line breaks at the end of a block. -/
inductive Chomping
  /-- All are left out. -/
  | strip
  /-- One is kept. -/
  | clip
  /-- All are kept. -/
  | keep
  deriving DecidableEq, Repr

/-- The chomping that a sign asks for. -/
def chomping? : Char → Option Chomping
  | '+' => some .keep
  | '-' => some .strip
  | _ => none

/-- The indentation that a digit asks for; a zero asks for none. -/
def increment? (c : Char) : Option Nat := if c.isDigit then some (c.toNat - 0x30) else none

/-- The signs after the mark of a block, in either order, and the place after them. -/
def header (c : Cursor) : Except DocumentFault (Chomping × Option Nat × Cursor) :=
  let (chomping, increment, c) :=
    match chomping? c.peek, increment? c.peek with
    | some chomping, _ =>
      match increment? c.next.peek with
      | some n => (chomping, some n, c.advance 2)
      | none => (chomping, none, c.next)
    | none, some n =>
      match chomping? c.next.peek with
      | some chomping => (chomping, some n, c.advance 2)
      | none => (.clip, some n, c.next)
    | none, none => (.clip, none, c)
  if increment == some 0 || !endsField c.peek then .error .malformed
  else .ok (chomping, increment, c)

/-- The empty lines at the front of a block, with the largest indentation among them and the first other line. -/
def blockIndentation : Nat → List Char → Nat → Cursor → List Char × Nat × Cursor
  | 0, breaks, widest, c => (breaks, widest, c)
  | fuel + 1, breaks, widest, c =>
    if c.peek == ' ' then blockIndentation fuel breaks (max widest c.next.column) c.next
    else if isBreak c.peek then
      let (text, c) := c.lineBreak
      blockIndentation fuel (breaks ++ text) widest c
    else (breaks, widest, c)

/-- The place after at most so many spaces that the column is `indent`. -/
def indentTo (indent : Nat) (c : Cursor) : Cursor :=
  c.advance (((c.run (· == ' ')).take (indent - c.column)).length)

/-- The empty lines at a place in a block, and the place in the first other line. -/
def blockBreaks (indent : Nat) : Nat → List Char → Cursor → List Char × Cursor
  | 0, breaks, c => (breaks, c)
  | fuel + 1, breaks, c =>
    let c := indentTo indent c
    if isBreak c.peek then
      let (text, c) := c.lineBreak
      blockBreaks indent fuel (breaks ++ text) c
    else (breaks, c)

/-- Whether a line of a block at a place begins with no blank, and so may be folded into another. -/
def isFoldable (c : Cursor) : Bool := c.peek != ' ' && c.peek != '\t'

/-- The lines of a block after the part `text`, where `breaks` are the empty lines before them.  The last two components
are the break after the last line and the empty lines after it. -/
def blockLines (folds : Bool) (indent : Nat) : Nat → List Char → List Char → List Char → Cursor →
    List Char × List Char × List Char × Cursor
  | 0, text, last, breaks, c => (text, last, breaks, c)
  | fuel + 1, text, last, breaks, c =>
    if c.column == indent && c.peek != endMark then
      let foldable := isFoldable c
      let line := c.run (!endsLine ·)
      let text := text ++ breaks ++ line
      let (last, c) := (c.advance line.length).lineBreak
      let (breaks, c) := blockBreaks indent (c.rest.length + 1) [] c
      if c.column == indent && c.peek != endMark then
        let joint :=
          if folds && last == ['\n'] && foldable && isFoldable c then
            if breaks.isEmpty then [' '] else []
          else last
        blockLines folds indent fuel (text ++ joint) [] breaks c
      else (text, last, breaks, c)
    else (text, last, breaks, c)

/-- A scalar written as a block, from its mark on, in a collection indented by `indent`. -/
def block (folds : Bool) (indent : Int) (c : Cursor) : Reading := do
  let (chomping, increment, c) ← header c.next
  match c.endOfLine? with
  | none => .error .malformed
  | some c =>
    let least := max (indent + 1).toNat 1
    let (breaks, width, c) :=
      match increment with
      | none =>
        let (breaks, widest, c) := blockIndentation (c.rest.length + 1) [] 0 c
        (breaks, max least widest, c)
      | some n =>
        let width := least + n - 1
        let (breaks, c) := blockBreaks width (c.rest.length + 1) [] c
        (breaks, width, c)
    let (text, last, breaks, c) := blockLines folds width (c.rest.length + 1) [] [] breaks c
    let tail :=
      match chomping with
      | .strip => []
      | .clip => last
      | .keep => last ++ breaks
    .ok (text ++ tail, c)

end ModuleReach.Yaml.Scalar
