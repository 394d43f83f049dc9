import ModuleReach.Entry
import ModuleReach.Source.Literal
import ModuleReach.Text.Blank
import ModuleReach.Text.WordChar

/-!
# The entries of a source

A module source is not parsed.  Its comments are blanked, the bodies of its literals are hidden, and six forms are looked for in what
is left: three calls of `require`, the two static forms with a specifier, and the call of `import`.  Each form is looked for on its
own, from left to right and without overlaps.  A specifier is read from under the blanks that hide it, so a keyword
inside a literal is never seen while a specifier always is.

## Main definitions

* `Source.Cell` — a character as it is shown to the forms, and as it is.
* `Source.Form` — what finds one entry at one place.
* `Source.findAll` — the entries of one form with their offsets.
* `Source.forms` — the six forms; `Source.entries` — the entries of a source in order.
-/

namespace ModuleReach.Source

open Text (isBlank isWordChar)

/-- A character of a source: as it is shown to the forms, and as it is. -/
structure Cell where
  /-- The character, or a blank if it is hidden. -/
  shown : Char
  /-- The character itself. -/
  actual : Char
  deriving DecidableEq, Repr

/-- A source with the bodies of its literals hidden. -/
def cells (code : List Char) : List Cell :=
  List.zipWith Cell.mk (maskLiterals code) code

/-- The characters themselves. -/
def actualText (cs : List Cell) : String := String.ofList (cs.map Cell.actual)

/-! ### Parts of the forms -/

/-- What follows the blanks at the front. -/
def skipBlanks (cs : List Cell) : List Cell := cs.dropWhile fun c => isBlank c.shown

/-- What follows a word at the front. -/
def word? : List Char → List Cell → Option (List Cell)
  | [], cs => some cs
  | _ :: _, [] => none
  | w :: word, c :: cs => if c.shown = w then word? word cs else none

/-- Whether a character can be inside the quotes of a specifier. -/
def inQuotes (c : Cell) : Bool := c.shown != '"' && c.shown != '\'' && c.shown != '\n'

/-- The text in quotes at the front, and what follows the quotes. -/
def quoted? : List Cell → Option (List Cell × List Cell)
  | [] => none
  | opening :: cs =>
    if opening.shown = '"' ∨ opening.shown = '\'' then
      match cs.dropWhile inQuotes with
      | closing :: after =>
        if closing.shown = opening.shown then some (cs.takeWhile inQuotes, after) else none
      | [] => none
    else none

/-- The specifier in quotes at the front, which is not empty, and what follows the quotes. -/
def specifier? (cs : List Cell) : Option (List Cell × List Cell) :=
  (quoted? cs).filter fun r => r.1 ≠ []

/-- What follows the end of the first argument of a call. -/
def endOfArgument? : List Cell → Option (List Cell)
  | c :: cs => if c.shown = ',' ∨ c.shown = ')' then some cs else none
  | [] => none

/-- Whether a text begins with the type of an asset. -/
def beginsAssetType (s : List Char) : Bool :=
  "type".toList.isPrefixOf s &&
    match (s.drop 4).dropWhile isBlank with
    | ':' :: s =>
      match s.dropWhile isBlank with
      | q :: s =>
        (q == '"' || q == '\'') && "asset".toList.isPrefixOf s &&
          (match s.drop 5 with
            | q :: _ => q == '"' || q == '\''
            | [] => false)
      | [] => false
    | _ => false

/-- Whether the attributes of an import say somewhere that it is an asset. -/
def declaresAsset : List Char → Bool
  | [] => false
  | c :: s => beginsAssetType (c :: s) || declaresAsset s

/-- Whether hidden or shown attributes say that an import is an asset. -/
def isAssetIn (cs : List Cell) : Bool := declaresAsset (cs.map Cell.actual)

/-- The attributes in braces after a static import, if there are any, and what follows them. -/
def attributes (cs : List Cell) : List Cell × List Cell :=
  let start := skipBlanks cs
  match (word? "with".toList start).or (word? "assert".toList start) with
  | none => ([], cs)
  | some rest =>
    match word? ['\x7b'] (skipBlanks rest) with
    | none => ([], cs)
    | some body =>
      match body.dropWhile (·.shown != '\x7d') with
      | _ :: after => (body.takeWhile (·.shown != '\x7d'), after)
      | [] => ([], cs)

/-- Whether a character can stand in the clause that says what is imported. -/
def inClause (c : Cell) : Bool :=
  isWordChar c.shown || c.shown == '$' || c.shown == '*' || c.shown == '\x7b' || c.shown == '\x7d' ||
    isBlank c.shown || c.shown == ','

/-- Whether a clause names something and then says `from`. -/
def namesSource (clause : List Cell) : Bool :=
  match word? "morf".toList (clause.reverse.dropWhile fun c => isBlank c.shown) with
  | some (_ :: _) => true
  | _ => false

/-- Whether nothing stands between a keyword and a specifier. -/
def isBare (clause : List Cell) : Bool := clause.all fun c => isBlank c.shown

/-- Whether a word may begin after a character. -/
def beginsWord (before : Option Char) : Bool := !before.any isWordChar

/-- Whether a keyword may begin after a character: not inside a word and not as the name of a member. -/
def beginsKeyword (before : Option Char) : Bool :=
  !before.any fun c => c == '.' || isWordChar c || c == '$'

/-! ### The forms -/

/-- What finds an entry at the front of a text, given the character before it.  The entry comes with what follows the
place where it stands. -/
abbrev Form := Option Char → List Cell → Option (Entry × List Cell)

/-- A call `require.addon(…)`, with a specifier or without one. -/
def addonForm : Form := fun before cs => do
  guard (beginsWord before)
  let argument := skipBlanks (← word? ['('] (skipBlanks (← word? "require.addon".toList cs)))
  let (specifier, rest) := (quoted? argument).getD ([], argument)
  let after ← endOfArgument? (skipBlanks rest)
  some (⟨actualText specifier, true, false, true, false⟩, after)

/-- A call `require.asset(…)`. -/
def assetForm : Form := fun before cs => do
  guard (beginsWord before)
  let argument := skipBlanks (← word? ['('] (skipBlanks (← word? "require.asset".toList cs)))
  let (specifier, rest) ← specifier? argument
  let after ← endOfArgument? (skipBlanks rest)
  some (⟨actualText specifier, false, true, true, false⟩, after)

/-- A call `require(…)`. -/
def requireForm : Form := fun before cs => do
  guard (beginsKeyword before)
  let argument := skipBlanks (← word? ['('] (skipBlanks (← word? "require".toList cs)))
  let (specifier, rest) ← specifier? argument
  let after ← word? [')'] (skipBlanks rest)
  some (⟨actualText specifier, false, false, true, false⟩, after)

/-- A static form: a keyword, a clause that `allowed` accepts, a specifier, and perhaps attributes. -/
def staticForm (keyword : String) (allowed : List Cell → Bool) : Form := fun before cs => do
  guard (beginsKeyword before)
  let start ← word? keyword.toList cs
  guard (allowed (start.takeWhile inClause))
  let (specifier, rest) ← specifier? (start.dropWhile inClause)
  let (about, after) := attributes rest
  some (⟨actualText specifier, false, isAssetIn about, false, true⟩, after)

/-- The static import: `import "…"` or `import … from "…"`. -/
def importForm : Form := staticForm "import" fun clause => isBare clause || namesSource clause

/-- The static export: `export … from "…"`. -/
def exportForm : Form := staticForm "export" namesSource

/-- The second argument of a call of `import` up to the closing parenthesis. -/
def options (cs : List Cell) : List Cell × List Cell :=
  match word? [','] cs with
  | none => ([], cs)
  | some rest =>
    match word? ['\x7b'] (skipBlanks rest) with
    | none => ([], cs)
    | some body => (body.takeWhile (·.shown != ')'), body.dropWhile (·.shown != ')'))

/-- A call `import(…)`. -/
def callForm : Form := fun before cs => do
  guard (beginsKeyword before)
  let argument := skipBlanks (← word? ['('] (skipBlanks (← word? "import".toList cs)))
  let (specifier, rest) ← specifier? argument
  let (about, rest) := options (skipBlanks rest)
  let after ← word? [')'] rest
  some (⟨actualText specifier, false, isAssetIn about, false, true⟩, after)

/-- All forms.  Of two entries at one place, that of the earlier form comes first. -/
def forms : List Form := [addonForm, assetForm, requireForm, importForm, exportForm, callForm]

/-! ### Finding entries -/

/-- The entries of a form with their offsets, from left to right and without overlaps.  The next `skip` characters
belong to an entry that was found, `before` is the character before the text, and `offset` that of its first
character. -/
def findAll (form : Form) : (skip : Nat) → (before : Option Char) → (offset : Nat) → List Cell →
    List (Nat × Entry)
  | _, _, _, [] => []
  | skip + 1, _, offset, c :: cs => findAll form skip (some c.shown) (offset + 1) cs
  | 0, before, offset, c :: cs =>
    match form before (c :: cs) with
    | some (entry, after) =>
      (offset, entry) ::
        findAll form (cs.length - after.length) (some c.shown) (offset + 1) cs
    | none => findAll form 0 (some c.shown) (offset + 1) cs

/-- The entries of all forms in the order of their offsets. -/
def located (cs : List Cell) : List (Nat × Entry) :=
  (forms.flatMap fun form => findAll form 0 none 0 cs).mergeSort fun a b => a.1 ≤ b.1

/-- The entries of a source in order; equal entries are given once. -/
def entries (source : String) : List Entry :=
  ((located (cells (stripComments source.toList))).map Prod.snd).eraseDups

end ModuleReach.Source
