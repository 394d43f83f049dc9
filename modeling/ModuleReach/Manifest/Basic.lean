import ModuleReach.Json.Reader
import ModuleReach.Store.Basic

/-!
# Manifests

A package describes itself in a file `package.json` at its top.  A file of that name that is not a JSON object in UTF-8 counts
as missing, and a note is taken of it.  Only a text that nests too deep for the reader is a fault, be it well formed or not.

## Main definitions

* `Manifest` — the fields of a manifest.
* `Manifest.read` — the manifest of a directory.
* `Manifest.scope` — the nearest directory, from a given one upwards, that has a manifest.
* `Manifest.prebuildName` — the name under which a package's binaries are stored.
-/

namespace ModuleReach

/-- The fields of a manifest, in order. -/
abbrev Manifest := List (String × Json)

namespace Manifest

/-- The value of a field. -/
def field? (m : Manifest) (name : String) : Option Json := InsertionMap.lookup name m

/-- The text in a field, if there is one and it is not empty. -/
def text? (m : Manifest) (name : String) : Option String :=
  (m.field? name).bind fun value => value.text?.filter (· ≠ "")

/-- The path of a directory's manifest. -/
def path (directory : String) : String := Path.normalize (Path.join directory "package.json")

/-- What the bytes of a file at `path` say, if that file is to be a manifest. -/
def ofBytes (path : String) (content : Bytes) : Run (Option Manifest) :=
  match Utf8.decode content with
  | .error _ => ⟨[.malformedManifest path], .ok none⟩
  | .ok text =>
    match Json.read? text with
    | none => ⟨[.malformedManifest path], .ok none⟩
    | some (.object fields) => pure (some fields)
    | some _ => ⟨[.manifestNotObject path], .ok none⟩

/-- The manifest of a directory. -/
def read (store : Store) (directory : String) : Run (Option Manifest) :=
  match store.read (path directory) with
  | .error fault => Run.fail fault
  | .ok none => pure none
  | .ok (some content) =>
    if store.refuses content then Run.fail (.manifestTooDeep (path directory))
    else ofBytes (path directory) content

/-- The `imports` of a manifest, if they are an object. -/
def imports? (manifest : Manifest) : Option (List (String × Json)) :=
  match manifest.field? "imports" with
  | some (.object imports) => some imports
  | _ => none

/-- The first of some directories that has a manifest. -/
def firstScope (store : Store) : List String → Run (Option (String × Manifest))
  | [] => pure none
  | directory :: rest => do
    match ← read store directory with
    | some manifest => pure (some (directory, manifest))
    | none => firstScope store rest

/-- The nearest directory, from a given one upwards, that has a manifest. -/
def scope (store : Store) (directory : String) : Run (Option (String × Manifest)) :=
  firstScope store (Path.ancestors directory)

/-- The name under which a package's binaries are stored: its own, or that of its directory, with a plus sign for each
slash. -/
def prebuildName (directory : String) (manifest : Option Manifest) : String :=
  let name :=
    match manifest.bind (·.text? "name") with
    | some name => name
    | none => if Path.name directory = "" then "addon" else Path.name directory
  String.ofList (Text.replaceChar '/' ['+'] name.toList)

end Manifest

end ModuleReach
