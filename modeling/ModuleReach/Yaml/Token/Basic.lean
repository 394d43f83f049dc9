/-!
# Tokens

The signs of which a document consists.  Some of them stand for characters of the text, others for the places where the
indentation of a block begins or ends and where a key turns out to have begun.

## Main definitions

* `Yaml.Token` — the tokens.
* `Yaml.TagName` — a tag as it is written.
-/

namespace ModuleReach.Yaml

/-- A tag as it is written: a handle that stands for the beginning of a name, if there is one, and the rest. -/
structure TagName where
  handle : Option String
  suffix : String
  deriving DecidableEq, Repr

/-- A sign of a document. -/
inductive Token
  /-- A directive that demands a version of the format. -/
  | version (major minor : Nat)
  /-- A directive that gives a meaning to a tag handle. -/
  | tagHandle (handle meaning : String)
  /-- Any other directive. -/
  | directive
  | documentStart
  | documentEnd
  | blockSequenceStart
  | blockMappingStart
  | blockEnd
  | flowSequenceStart
  | flowSequenceEnd
  | flowMappingStart
  | flowMappingEnd
  /-- The comma between the parts of a flow collection. -/
  | flowEntry
  /-- The dash before an entry of a block sequence. -/
  | blockEntry
  /-- The place where a key begins. -/
  | key
  /-- The place where a value begins. -/
  | value
  /-- A reference to what an anchor names. -/
  | alias (name : String)
  | anchor (name : String)
  | tag (name : TagName)
  /-- A scalar; it is `plain` if it is written without quotes or other marks. -/
  | scalar (text : String) (plain : Bool)
  deriving DecidableEq, Repr

end ModuleReach.Yaml
