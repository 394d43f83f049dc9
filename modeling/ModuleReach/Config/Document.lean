import ModuleReach.Config.Basic
import ModuleReach.Text.Utf8
import ModuleReach.Yaml.Value

/-!
# Configurations in files

A configuration file is a mapping with three keys, each of which may be missing or hold nothing.  `builtins` and `targets` replace the
lists of a base configuration, and `extra_builtins` adds names to the builtins that are then active.  What a file says as a
document is the business of the reader of documents that is used.

## Main definitions

* `Config.ofValue` — the configuration that a value describes on top of another.
* `Config.ofBytes` — the configuration in the contents of a file.
* `Config.load` — the configuration in the file that a path names.
-/

namespace ModuleReach.Config

open Yaml (Value)

/-- The keys that mean something. -/
def knownKeys : List String := ["builtins", "extra_builtins", "targets"]

/-- The texts in a list that holds nothing else. -/
def textsOf? : List Value → Option (List String)
  | [] => some []
  | .text s :: rest => (textsOf? rest).map (s :: ·)
  | _ :: _ => none

/-- The list of texts at a key, if something is there. -/
def stringList (path : String) (entries : List (Value × Value)) (key : String) :
    Except Fault (Option (List String)) :=
  match Value.lookup key entries with
  | none => .ok none
  | some .null => .ok none
  | some (.list items) =>
    match textsOf? items with
    | some texts => .ok (some texts)
    | none => .error (.config (.notStringList path key))
  | some _ => .error (.config (.notStringList path key))

/-- The keys that mean nothing, each once and in order of code points; a fault if one of them is no text. -/
def unknownKeys (entries : List (Value × Value)) : Except Fault (List String) :=
  let unknown := (entries.map Prod.fst).filter fun key =>
    match key.text? with
    | some name => !knownKeys.contains name
    | none => true
  if unknown.all fun key => key.text?.isSome then
    .ok ((unknown.filterMap Value.text?).eraseDups.mergeSort fun a b => decide (a ≤ b))
  else .error .configKeys

/-- The names that extend a list: those of `extra` that are not in it, in their order. -/
def extend (names extra : List String) : List String :=
  names ++ extra.filter fun name => name ∉ names

/-- The builtins that a file asks for on top of those of a base, if it asks for any.  Without names to add, or with an empty list
of them, only a list that replaces the base's counts. -/
def requestedBuiltins (base : Config) (builtins extra : Option (List String)) :
    Option (List String) :=
  match extra with
  | some (name :: rest) => some (extend (builtins.getD base.builtins) (name :: rest))
  | _ => builtins

/-- The configuration that the entries of a mapping describe on top of another. -/
def ofEntries (path : String) (entries : List (Value × Value)) (base : Config) :
    Except Fault Config := do
  let unknown ← unknownKeys entries
  if unknown ≠ [] then .error (.config (.unknownKeys path unknown))
  else
    let builtins ← stringList path entries "builtins"
    let extra ← stringList path entries "extra_builtins"
    let targets ← stringList path entries "targets"
    (base.override (base.requestedBuiltins builtins extra) targets).mapError .config

/-- The configuration that a value describes on top of another. -/
def ofValue (path : String) (value : Value) (base : Config) : Except Fault Config :=
  match value with
  | .null => ofEntries path [] base
  | .mapping entries => ofEntries path entries base
  | _ => .error (.config (.notMapping path))

/-- A text in which every line ends in the same way. -/
def unifyLineEnds : List Char → List Char
  | '\r' :: '\n' :: rest => '\n' :: unifyLineEnds rest
  | '\r' :: rest => '\n' :: unifyLineEnds rest
  | c :: rest => c :: unifyLineEnds rest
  | [] => []

/-- The configuration in the contents of the file at a path, on top of another. -/
def ofBytes (path : String) (content : Bytes) (base : Config) (read : Yaml.Reader) : Except Fault Config :=
  match Utf8.decode content with
  | .error _ => .error .configEncoding
  | .ok text =>
    match read (unifyLineEnds text) with
    | .error .malformed => .error (.config (.invalidDocument path))
    | .error (.scalar cause) => .error (.configScalar cause)
    | .ok value => ofValue path value base

/-- The configuration in the file that a path names, seen from the location `here`, on top of another.  Unless another one is
given, the reader of documents is that of the program. -/
def load (tree : FileTree) (here : Location) (path : String) (base : Config) (read : Yaml.Reader := Yaml.read) :
    Except Fault Config :=
  let path := Path.tidy path
  match tree.read here path with
  | .error cause => .error (.config (.unreadable path cause))
  | .ok content => ofBytes path content base read

end ModuleReach.Config
