import ModuleReach.Json.Basic
import ModuleReach.Text.Split

/-!
# Conditional targets of a package

A manifest can map the names under which a package is known to the paths behind them.  A name may hold a `*`, which stands for
any text; a path may depend on conditions.

The value of a name is a *target expression*.  A text is a path.  An array gives the paths of all its items.  An object
gives the paths of the first field whose name is a condition that holds and whose value decides; a null decides that there is no
path.

## Main definitions

* `Manifest.expand` — the paths that an expression gives, or the decision that there is none.
* `Manifest.Pattern` — a name with a `*`, cut in two; `Manifest.bestPattern?` chooses one for a name.
* `Manifest.matchSubpath` — the paths behind a name.
* `Manifest.exportTargets` — the paths behind a name under the `exports` of a manifest.
-/

namespace ModuleReach.Manifest

/-! ### Target expressions -/

/-- A path with every `*` replaced, if there is something to put in its place. -/
def substitute (piece : Option String) (path : String) : String :=
  match piece with
  | none => path
  | some piece => String.ofList (Text.replaceChar '*' piece.toList path.toList)

/-- Whether a field of an object counts under the conditions that hold. -/
def applies (conditions : List String) (name : String) : Bool :=
  name == "default" || conditions.contains name

mutual

/-- The paths that an expression gives, in order of preference; `none` if it decides that there is none. -/
def expand (conditions : List String) (piece : Option String) : Json → Option (List String)
  | .null => none
  | .string path => some [substitute piece path]
  | .array items => some (expandItems conditions piece items)
  | .object fields => expandFields conditions piece fields
  | .bool _ => some []
  | .number _ => some []

/-- The paths that the items of an array give together. -/
def expandItems (conditions : List String) (piece : Option String) : List Json → List String
  | [] => []
  | item :: rest =>
    (expand conditions piece item).getD [] ++ expandItems conditions piece rest

/-- The paths that the first deciding field of an object gives. -/
def expandFields (conditions : List String) (piece : Option String) :
    List (String × Json) → Option (List String)
  | [] => some []
  | (name, value) :: rest =>
    if applies conditions name then
      match expand conditions piece value with
      | some [] => expandFields conditions piece rest
      | decided => decided
    else expandFields conditions piece rest

end

/-! ### Names -/

/-- A name with a `*`, cut at the first one, and its value. -/
structure Pattern where
  before : List Char
  after : List Char
  value : Json

/-- The pattern that a field stands for, if its name has a `*`. -/
def Pattern.ofField? (field : String × Json) : Option Pattern :=
  (Text.cutFirst? '*' field.1.toList).map fun cut => ⟨cut.1, cut.2, field.2⟩

/-- Whether a name is what a pattern says, with at least one character for the `*`. -/
def Pattern.accepts (p : Pattern) (name : List Char) : Bool :=
  p.before.isPrefixOf name && p.after.isSuffixOf name &&
    p.before.length + p.after.length < name.length

/-- What stands for the `*` in a name that the pattern accepts. -/
def Pattern.piece (p : Pattern) (name : List Char) : List Char :=
  (name.take (name.length - p.after.length)).drop p.before.length

/-- The pattern with the longer text before its `*`; the first of two that are equally long. -/
def Pattern.prefer (best : Option Pattern) (p : Pattern) : Option Pattern :=
  match best with
  | none => some p
  | some b => if b.before.length < p.before.length then some p else some b

/-- The pattern of a mapping that is closest to a name. -/
def bestPattern? (mapping : List (String × Json)) (name : List Char) : Option Pattern :=
  ((mapping.filterMap Pattern.ofField?).filter (·.accepts name)).foldl Pattern.prefer none

/-- The paths behind a name.  A name without a `*` that is in the mapping counts before any pattern. -/
def matchSubpath (mapping : List (String × Json)) (name : String) (conditions : List String) :
    List String :=
  match if '*' ∈ name.toList then none else InsertionMap.lookup name mapping with
  | some value => (expand conditions none value).getD []
  | none =>
    match bestPattern? mapping name.toList with
    | none => []
    | some p =>
      (expand conditions (some (String.ofList (p.piece name.toList))) p.value).getD []

/-- Whether a field's name is a path in a package. -/
def isSubpathField (field : String × Json) : Bool := field.1.toList.head? == some '.'

/-- The mapping that the `exports` of a manifest stand for.  Unless they are an object with paths as names, they are the
value of the package itself. -/
def exportMapping (exports : Json) : List (String × Json) :=
  match exports with
  | .object fields => if fields.any isSubpathField then fields else [(".", exports)]
  | _ => [(".", exports)]

/-- The paths behind a name under the `exports` of a manifest. -/
def exportTargets (exports : Json) (subpath : String) (conditions : List String) : List String :=
  matchSubpath (exportMapping exports) subpath conditions

end ModuleReach.Manifest
