import ModuleReach.Yaml.Fault

/-!
# Values of documents

Of the value that a document stands for, only what a configuration can hold is told apart: nothing, texts, lists and mappings.
All others are alike.

Whoever needs the value of a document is given a reader of documents, and knows no more of it than that it gives a value or
says why there is none.

## Main definitions

* `Yaml.Value` — the values; `Yaml.Value.lookup` is the value at a key of a mapping.
* `Yaml.Reader` — the readers of documents.
-/

namespace ModuleReach.Yaml

/-- The value of a document or of a part of it. -/
inductive Value
  | null
  | text (s : String)
  | list (items : List Value)
  | mapping (entries : List (Value × Value))
  /-- A number, a truth value, a date, bytes, a set, or a pair. -/
  | other
  deriving Repr

namespace Value

/-- The text that a value is, if it is one. -/
def text? : Value → Option String
  | text s => some s
  | _ => none

/-- The last value at a key. -/
def lookup (key : String) : List (Value × Value) → Option Value
  | [] => none
  | (k, v) :: rest =>
    match lookup key rest with
    | some found => some found
    | none => if k.text? = some key then some v else none

end Value

/-- A reader of documents: the value that a text stands for, or why it stands for none. -/
def Reader : Type := List Char → Except DocumentFault Value

end ModuleReach.Yaml
