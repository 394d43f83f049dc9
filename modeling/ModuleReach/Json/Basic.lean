import ModuleReach.InsertionMap

/-!
# JSON values

The values of the data format of manifests and reports.  A number is kept as it is written, since nothing here computes with
it.  An object keeps its fields in order, and no name occurs twice in an object that was read.

## Main definitions

* `Json` — the values.
* `Json.ofFields` — the object with the given fields, where a later field replaces an earlier one of its name.
* `Json.field?` — the value of a field.
-/

namespace ModuleReach

/-- A JSON value. -/
inductive Json
  | null
  | bool (value : Bool)
  | number (literal : String)
  | string (text : String)
  | array (items : List Json)
  | object (fields : List (String × Json))
  deriving Repr

namespace Json

instance : Inhabited Json := ⟨null⟩

/-- The object with the given fields.  A later field replaces the value of an earlier one of its name. -/
def ofFields (fields : List (String × Json)) : Json := object (InsertionMap.ofList fields).entries

/-- The value of a field; only objects have fields. -/
def field? (name : String) : Json → Option Json
  | object fields => InsertionMap.lookup name fields
  | _ => none

/-- The text that a value is, if it is one. -/
def text? : Json → Option String
  | string text => some text
  | _ => none

end Json

end ModuleReach
