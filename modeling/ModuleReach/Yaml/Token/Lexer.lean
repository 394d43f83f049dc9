import ModuleReach.Yaml.Token.Mark
import ModuleReach.Yaml.Token.Scalar

/-!
# The tokens of a text

A text is cut into tokens from left to right.  Indentation opens and closes blocks, except inside flow collections.  Whether a node
is a key shows only at the colon after it, which must be on the same line and near: the place of each node that may
turn out to be a key is remembered, and the tokens for the key are put in there afterwards.

## Main definitions

* `Yaml.Lexer.State` — the tokens so far, the place, and what is known about blocks and possible keys.
* `Yaml.Lexer.fetch` — one step.
* `Yaml.Token.ofText?` — the tokens of a text.
-/

namespace ModuleReach.Yaml

namespace Lexer

/-- The place of a node that may turn out to be a key. -/
structure PossibleKey where
  /-- How many flow collections are open around it. -/
  level : Nat
  /-- How many tokens stand before it. -/
  position : Nat
  index : Nat
  line : Nat
  column : Nat
  /-- The node must be a key, or nothing could stand at its column. -/
  required : Bool

/-- What is known at a place of a text. -/
structure State where
  cursor : Cursor
  /-- The tokens so far. -/
  tokens : List Token
  /-- How many flow collections are open. -/
  level : Nat
  /-- The column of the open block; negative outside blocks. -/
  indent : Int
  /-- The columns of the blocks around it. -/
  outer : List Int
  /-- Whether a key may begin here. -/
  keyAllowed : Bool
  keys : List PossibleKey
  /-- Whether the text has ended. -/
  ended : Bool

/-- A step that may fail. -/
abbrev Step := Except DocumentFault State

namespace State

/-- The state at the start of a text. -/
def start (text : List Char) : State := ⟨Cursor.ofText text, [], 0, -1, [], true, [], false⟩

/-- The next character. -/
def peek (s : State) : Char := s.cursor.peek

/-- The character `n` places on. -/
def look (s : State) (n : Nat) : Char := s.cursor.look n

/-- The state after one more token, which ends at `cursor`. -/
def push (s : State) (token : Token) (cursor : Cursor) : State :=
  { s with tokens := s.tokens ++ [token], cursor }

/-- The state with a token put in before the token at `position`. -/
def insertToken (s : State) (position : Nat) (token : Token) : State :=
  { s with tokens := s.tokens.insertIdx position token }

/-- The state where a key may or may not begin. -/
def allowKey (s : State) (keyAllowed : Bool) : State := { s with keyAllowed }

/-! ### Possible keys -/

/-- Whether it is too late for a node to turn out to be a key. -/
def isStale (s : State) (k : PossibleKey) : Bool :=
  k.line != s.cursor.line || 1024 < s.cursor.index - k.index

/-- The state without the nodes for which it is too late; none of them may be required to be a key. -/
def dropStale (s : State) : Step :=
  if s.keys.any fun k => s.isStale k && k.required then .error .malformed
  else .ok { s with keys := s.keys.filter fun k => !s.isStale k }

/-- The state without the possible key among the open flow collections, which may not be required. -/
def dropKey (s : State) : Step :=
  if s.keys.any fun k => k.level == s.level && k.required then .error .malformed
  else .ok { s with keys := s.keys.filter fun k => k.level != s.level }

/-- The state in which the node that begins here may turn out to be a key, if a key may begin here. -/
def saveKey (s : State) : Step :=
  if s.keyAllowed then do
    let s ← s.dropKey
    let c := s.cursor
    let required := s.level == 0 && s.indent == c.column
    .ok { s with keys := ⟨s.level, s.tokens.length, c.index, c.line, c.column, required⟩ :: s.keys }
  else .ok s

/-! ### Blocks -/

/-- The columns of the blocks left open by a line at `column`, and how many are closed. -/
def unwound (column : Int) : Int → List Int → Int × List Int × Nat
  | indent, [] => (indent, [], 0)
  | indent, next :: outer =>
    if column < indent then
      let (indent, outer, n) := unwound column next outer
      (indent, outer, n + 1)
    else (indent, next :: outer, 0)

/-- The state after closing the blocks that a line at `column` does not belong to. -/
def unwind (s : State) (column : Int) : State :=
  if s.level ≠ 0 then s
  else
    let (indent, outer, n) := unwound column s.indent s.outer
    { s with indent, outer, tokens := s.tokens ++ List.replicate n .blockEnd }

/-- The state after opening a block at a column, if none is open there: `token` goes before the token at
`position`. -/
def openBlock (s : State) (column : Nat) (position : Nat) (token : Token) : State :=
  if s.indent < column then
    { s.insertToken position token with indent := column, outer := s.indent :: s.outer }
  else s

/-- The place after the blanks, comments and line breaks before the next token. -/
def skipSpace : Nat → State → State
  | 0, s => s
  | fuel + 1, s =>
    let c := s.cursor.skip (· == ' ')
    let c := if c.peek == '#' then c.skip (!endsLine ·) else c
    if isBreak c.peek then
      skipSpace fuel { s with cursor := c.lineBreak.2, keyAllowed := s.keyAllowed || s.level == 0 }
    else { s with cursor := c }

/-- The place of the next token.  A byte-order mark may stand before the first. -/
def toNextToken (s : State) : State :=
  let s := if s.cursor.index == 0 && s.peek == '\ufeff' then { s with cursor := s.cursor.next } else s
  skipSpace (s.cursor.rest.length + 1) s

end State

/-! ### The tokens -/

open State

/-- The end of the text. -/
def fetchEnd (s : State) : Step := do
  let s ← (s.unwind (-1)).dropKey
  .ok { s with keys := [], keyAllowed := false, ended := true }

/-- A directive. -/
def fetchDirective (s : State) : Step := do
  let s ← (s.unwind (-1)).dropKey
  let (token, c) ← Mark.directive s.cursor
  .ok ((s.push token c).allowKey false)

/-- A line of three dashes or dots. -/
def fetchDocumentMark (s : State) (token : Token) : Step := do
  let s ← (s.unwind (-1)).dropKey
  .ok ((s.push token (s.cursor.advance 3)).allowKey false)

/-- The opening of a flow collection. -/
def fetchFlowStart (s : State) (token : Token) : Step := do
  let s ← s.saveKey
  .ok ({ s.push token s.cursor.next with level := s.level + 1 }.allowKey true)

/-- The closing of a flow collection.  Closing more than is open is left for the structure to refuse. -/
def fetchFlowEnd (s : State) (token : Token) : Step := do
  let s ← s.dropKey
  .ok ({ s.push token s.cursor.next with level := s.level - 1 }.allowKey false)

/-- The comma in a flow collection. -/
def fetchFlowEntry (s : State) : Step := do
  let s ← s.dropKey
  .ok ((s.push .flowEntry s.cursor.next).allowKey true)

/-- The dash before an entry of a block sequence. -/
def fetchBlockEntry (s : State) : Step :=
  if s.level == 0 && !s.keyAllowed then .error .malformed
  else do
    let s := if s.level == 0 then s.openBlock s.cursor.column s.tokens.length .blockSequenceStart else s
    let s ← s.dropKey
    .ok ((s.push .blockEntry s.cursor.next).allowKey true)

/-- The question mark before a key. -/
def fetchKey (s : State) : Step :=
  if s.level == 0 && !s.keyAllowed then .error .malformed
  else do
    let s := if s.level == 0 then s.openBlock s.cursor.column s.tokens.length .blockMappingStart else s
    let s ← s.dropKey
    .ok ((s.push .key s.cursor.next).allowKey (s.level == 0))

/-- The colon before a value. -/
def fetchValue (s : State) : Step :=
  match s.keys.find? fun k => k.level == s.level with
  | some k =>
    let s := { s with keys := s.keys.filter fun k => k.level != s.level }
    let s := s.insertToken k.position .key
    let s := if s.level == 0 then s.openBlock k.column k.position .blockMappingStart else s
    .ok ((s.push .value s.cursor.next).allowKey false)
  | none =>
    if s.level == 0 && !s.keyAllowed then .error .malformed
    else
      let s := if s.level == 0 then s.openBlock s.cursor.column s.tokens.length .blockMappingStart else s
      .ok ((s.push .value s.cursor.next).allowKey (s.level == 0))

/-- An anchor or a reference. -/
def fetchName (s : State) (token : String → Token) : Step := do
  let s ← s.saveKey
  let (name, c) ← Mark.name s.cursor.next
  .ok ((s.push (token name) c).allowKey false)

/-- A tag. -/
def fetchTag (s : State) : Step := do
  let s ← s.saveKey
  let (name, c) ← Mark.tag s.cursor
  .ok ((s.push (.tag name) c).allowKey false)

/-- A scalar written as a block. -/
def fetchBlockScalar (s : State) (folds : Bool) : Step := do
  let s ← s.dropKey
  let (text, c) ← Scalar.block folds s.indent s.cursor
  .ok ((s.push (.scalar (String.ofList text) false) c).allowKey true)

/-- A scalar in quotes. -/
def fetchQuoted (s : State) (double : Bool) : Step := do
  let s ← s.saveKey
  let (text, c) ← Scalar.quoted double s.cursor
  .ok ((s.push (.scalar (String.ofList text) false) c).allowKey false)

/-- A plain scalar. -/
def fetchPlain (s : State) : Step := do
  let s ← s.saveKey
  let (text, c, broken) := Scalar.plain (s.level != 0) (s.indent + 1) s.cursor
  .ok ((s.push (.scalar (String.ofList text) true) c).allowKey broken)

/-- Whether a plain scalar can begin here. -/
def beginsPlain (s : State) : Bool :=
  let c := s.peek
  !(endsWord c || "-?:,[]\x7b\x7d#&*!|>'\"%@\x60".toList.contains c) ||
    (!endsWord (s.look 1) && (c == '-' || (s.level == 0 && (c == '?' || c == ':'))))

/-- Whether a sign that must be followed by a blank outside flow collections stands here. -/
def seesSign (s : State) (sign : Char) : Bool :=
  s.peek == sign && (s.level != 0 || endsWord (s.look 1))

/-- The next token. -/
def fetchAt (s : State) : Step :=
  let c := s.peek
  let atLineStart := s.cursor.column == 0
  if c == endMark then fetchEnd s
  else if c == '%' && atLineStart then fetchDirective s
  else if c == '-' && atLineStart && s.cursor.seesDocumentMark then fetchDocumentMark s .documentStart
  else if c == '.' && atLineStart && s.cursor.seesDocumentMark then fetchDocumentMark s .documentEnd
  else if c == '[' then fetchFlowStart s .flowSequenceStart
  else if c == '\x7b' then fetchFlowStart s .flowMappingStart
  else if c == ']' then fetchFlowEnd s .flowSequenceEnd
  else if c == '\x7d' then fetchFlowEnd s .flowMappingEnd
  else if c == ',' then fetchFlowEntry s
  else if c == '-' && endsWord (s.look 1) then fetchBlockEntry s
  else if seesSign s '?' then fetchKey s
  else if seesSign s ':' then fetchValue s
  else if c == '*' then fetchName s .alias
  else if c == '&' then fetchName s .anchor
  else if c == '!' then fetchTag s
  else if c == '|' && s.level == 0 then fetchBlockScalar s false
  else if c == '>' && s.level == 0 then fetchBlockScalar s true
  else if c == '\'' then fetchQuoted s false
  else if c == '"' then fetchQuoted s true
  else if beginsPlain s then fetchPlain s
  else .error .malformed

/-- One step: to the next token, past the blocks that end before it, and over it. -/
def fetch (s : State) : Step := do
  let s ← s.toNextToken.dropStale
  fetchAt (s.unwind s.cursor.column)

/-- All steps until the text ends.  Each but the last goes over a character. -/
def fetchAll : Nat → State → Step
  | 0, _ => .error .malformed
  | fuel + 1, s => do
    let s ← fetch s
    if s.ended then .ok s else fetchAll fuel s

end Lexer

/-- The tokens of a text. -/
def Token.ofText? (text : List Char) : Except DocumentFault (List Token) :=
  if text.all isPrintable then
    (Lexer.fetchAll (text.length + 1) (Lexer.State.start text)).map (·.tokens)
  else .error .malformed

end ModuleReach.Yaml
