import ModuleReach.Text.Hex
import ModuleReach.Text.Utf8
import ModuleReach.Yaml.Cursor
import ModuleReach.Yaml.Token.Basic

/-!
# Names, tags and directives

The tokens that say something about a node or about the whole document: anchors and references, tags, and directives.  Each
function begins at a place in a document and gives what it read together with the place where it ends.

## Main definitions

* `Yaml.Mark.name` — the name of an anchor or reference.
* `Yaml.Mark.tag` — a tag.
* `Yaml.Mark.directive` — a directive with its line.
-/

namespace ModuleReach.Yaml.Mark

/-- The name of an anchor or reference, after its sign. -/
def name (c : Cursor) : Except DocumentFault (String × Cursor) :=
  let text := c.run isNameChar
  let after := c.skip isNameChar
  if text.isEmpty then .error .malformed
  else if endsWord after.peek || "?:,]\x7d%@\x60".toList.contains after.peek then
    .ok (String.ofList text, after)
  else .error .malformed

/-! ### Tags -/

/-- Whether a character can stand in the name of a tag. -/
def isTagChar (c : Char) : Bool :=
  c.isAlphanum || "-;/?:@&=+$,_.!~*'()[]".toList.contains c

/-- The bytes that are escaped at a place, each after a percent sign. -/
def escapedBytes : Nat → Bytes → Cursor → Except DocumentFault (Bytes × Cursor)
  | 0, bytes, c => .ok (bytes, c)
  | fuel + 1, bytes, c =>
    if c.peek == '%' then
      match Text.hexValue? (c.look 1), Text.hexValue? (c.look 2) with
      | some a, some b => escapedBytes fuel (bytes ++ [UInt8.ofNat (16 * a + b)]) (c.advance 3)
      | _, _ => .error .malformed
    else .ok (bytes, c)

/-- The part of a tag's name at a place, with escaped bytes as the characters that they encode. -/
def tagText : Nat → List Char → Cursor → Except DocumentFault (List Char × Cursor)
  | 0, text, c => .ok (text, c)
  | fuel + 1, text, c =>
    let text := text ++ c.run isTagChar
    let c := c.skip isTagChar
    if c.peek == '%' then do
      let (bytes, c) ← escapedBytes (c.rest.length + 1) [] c
      match Utf8.decode bytes with
      | .ok more => tagText fuel (text ++ more) c
      | .error _ => .error .malformed
    else .ok (text, c)

/-- The name of a tag, which is not empty. -/
def tagName (c : Cursor) : Except DocumentFault (String × Cursor) := do
  let (text, after) ← tagText (c.rest.length + 1) [] c
  if after.index = c.index then .error .malformed else .ok (String.ofList text, after)

/-- A tag handle: an exclamation mark, or a word between two of them. -/
def handle (c : Cursor) : Except DocumentFault (String × Cursor) :=
  if c.peek ≠ '!' then .error .malformed
  else if c.look 1 == ' ' then .ok ("!", c.next)
  else
    let word := c.next.run isNameChar
    let after := c.next.skip isNameChar
    if after.peek == '!' then .ok (String.ofList ('!' :: word ++ ['!']), after.next)
    else .error .malformed

/-- A tag, from its exclamation mark on. -/
def tag (c : Cursor) : Except DocumentFault (TagName × Cursor) := do
  let (name, after) ←
    if c.look 1 == '<' then do
      let (suffix, after) ← tagName (c.advance 2)
      if after.peek == '>' then .ok ((⟨none, suffix⟩ : TagName), after.next)
      else .error .malformed
    else if endsWord (c.look 1) then .ok (⟨none, "!"⟩, c.next)
    else if (c.next.run (!endsField ·)).contains '!' then do
      let (handle, after) ← handle c
      let (suffix, after) ← tagName after
      .ok (⟨some handle, suffix⟩, after)
    else do
      let (suffix, after) ← tagName c.next
      .ok (⟨some "!", suffix⟩, after)
  if endsField after.peek then .ok (name, after) else .error .malformed

/-! ### Directives -/

/-- A number of decimal digits. -/
def number (c : Cursor) : Except DocumentFault (Nat × Cursor) :=
  let digits := c.run Char.isDigit
  if digits.isEmpty then .error .malformed
  else .ok (digits.foldl (fun n d => 10 * n + (d.toNat - 0x30)) 0, c.skip Char.isDigit)

/-- The version in a directive, after the directive's name. -/
def version (c : Cursor) : Except DocumentFault (Token × Cursor) := do
  let (major, c) ← number (c.skip (· == ' '))
  if c.peek ≠ '.' then .error .malformed
  else
    let (minor, c) ← number c.next
    if endsField c.peek then .ok (.version major minor, c) else .error .malformed

/-- The tag handle in a directive with its meaning, after the directive's name. -/
def tagHandle (c : Cursor) : Except DocumentFault (Token × Cursor) := do
  let (handle, c) ← handle (c.skip (· == ' '))
  if c.peek ≠ ' ' then .error .malformed
  else
    let (meaning, c) ← tagName (c.skip (· == ' '))
    if endsField c.peek then .ok (.tagHandle handle meaning, c) else .error .malformed

/-- A directive with its line, from the percent sign on. -/
def directive (c : Cursor) : Except DocumentFault (Token × Cursor) := do
  let word := c.next.run isNameChar
  let after := c.next.skip isNameChar
  if word.isEmpty || !endsField after.peek then .error .malformed
  else
    let (token, after) ←
      if word = "YAML".toList then version after
      else if word = "TAG".toList then tagHandle after
      else .ok (.directive, after.skip (!endsLine ·))
    match after.endOfLine? with
    | some after => .ok (token, after)
    | none => .error .malformed

end ModuleReach.Yaml.Mark
