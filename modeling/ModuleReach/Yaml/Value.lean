import ModuleReach.Yaml.Basic
import ModuleReach.Yaml.Node
import ModuleReach.Yaml.Scalar

/-!
# The values of nodes

The merge key of a mapping puts the entries of other mappings before its own.  Of several entries for one key the last counts.

A document has a value only if all its nodes have one.  If several have none, the fault of the outermost counts, and of
several equally far outside that of the first.

## Main definitions

* `Yaml.Node.merge` — a node whose mappings have taken over what their merge keys bring in.
* `Yaml.Node.value` — the value of a merged node.
* `Yaml.Node.faults` — the faults in a node, level by level.
* `Yaml.read` — the reader that goes through the nodes of a document.
-/

namespace ModuleReach.Yaml

namespace Node

/-! ### Merging -/

/-- The tag of a node. -/
def tag : Node → Tag
  | .scalar tag _ => tag
  | .sequence tag _ => tag
  | .mapping tag _ => tag
  | .knot isMapping => if isMapping then .map else .seq

/-- A key as it counts in a mapping: the sign for a default value is an ordinary text there. -/
def asKey : Node → Node
  | .scalar .default text => .scalar .str text
  | key => key

mutual

/-- A node in which the mappings that have keys, and the sets, have taken over the entries that their merge keys bring in.
Those stand before their own, and so does a merge key at which there is nothing that could bring in entries. -/
def merge : Node → Node
  | .mapping tag entries =>
    if tag = .map ∨ tag = .set then .mapping tag (merged entries ++ own entries)
    else .mapping tag entries
  | .sequence tag items =>
    if tag = .omap ∨ tag = .pairs then .sequence tag (mergePairs items)
    else .sequence tag (mergeItems items)
  | node => node

/-- The items of a sequence after merging. -/
def mergeItems : List Node → List Node
  | [] => []
  | item :: rest => merge item :: mergeItems rest

/-- The items of a list of pairs after merging.  In the mapping that stands for a pair, nothing is taken over. -/
def mergePairs : List Node → List Node
  | [] => []
  | item :: rest => mergePair item :: mergePairs rest

/-- The mapping that stands for a pair, after merging. -/
def mergePair : Node → Node
  | .mapping tag entries => .mapping tag (mergeParts entries)
  | node => node

/-- The keys of some entries and what stands at them, after merging. -/
def mergeParts : List (Node × Node) → List (Node × Node)
  | [] => []
  | (key, item) :: rest => (merge key, merge item) :: mergeParts rest

/-- What the merge keys among some entries bring in. -/
def merged : List (Node × Node) → List (Node × Node)
  | [] => []
  | (key, source) :: rest =>
    if key.tag = .merge then ((broughtIn? source).getD [(key, source)]) ++ merged rest
    else merged rest

/-- The entries that are not at merge keys. -/
def own : List (Node × Node) → List (Node × Node)
  | [] => []
  | (key, item) :: rest =>
    if key.tag = .merge then own rest else ((merge key).asKey, merge item) :: own rest

/-- The entries that a mapping brings in; `none` for any other node. -/
def entries? : Node → Option (List (Node × Node))
  | .mapping _ entries => some (merged entries ++ own entries)
  | .knot true => some []
  | _ => none

/-- The entries that each of some mappings brings in. -/
def allEntries? : List Node → Option (List (List (Node × Node)))
  | [] => some []
  | item :: rest =>
    match entries? item, allEntries? rest with
    | some entries, some others => some (entries :: others)
    | _, _ => none

/-- The entries that a node brings in at a merge key: those of a mapping, or those of the mappings in a sequence, the last
first; `none` if the node is neither. -/
def broughtIn? : Node → Option (List (Node × Node))
  | .mapping _ entries => some (merged entries ++ own entries)
  | .sequence _ items => (allEntries? items).map fun all => all.reverse.flatten
  | .knot _ => some []
  | .scalar _ _ => none

end

/-! ### Values -/

mutual

/-- The text of a scalar, or of the default entry of a mapping. -/
def scalarText? : Node → Option String
  | .scalar _ text => some text
  | .mapping _ entries => defaultText? entries
  | _ => none

/-- The text at the first default key. -/
def defaultText? : List (Node × Node) → Option String
  | [] => none
  | (key, item) :: rest => if key.tag = .default then scalarText? item else defaultText? rest

end

/-- The value of a scalar with a text under a tag. -/
def scalarValue (tag : Tag) (text : String) : Value :=
  match tag with
  | .null => .null
  | .str => .text text
  | _ => .other

mutual

/-- The value of a merged node. -/
def value : Node → Value
  | .scalar tag text => scalarValue tag text
  | .sequence .seq items => .list (values items)
  | .sequence .omap items => .list (items.map fun _ => .other)
  | .sequence .pairs items => .list (items.map fun _ => .other)
  | .sequence _ _ => .other
  | .mapping .map entries => .mapping (entryValues entries)
  | .mapping tag entries => scalarValue tag ((defaultText? entries).getD "")
  | .knot _ => .other

/-- The values of some nodes. -/
def values : List Node → List Value
  | [] => []
  | item :: rest => value item :: values rest

/-- The values of some entries. -/
def entryValues : List (Node × Node) → List (Value × Value)
  | [] => []
  | (key, item) :: rest => (value key, value item) :: entryValues rest

end

/-! ### Faults -/

/-- Whether a tag is that of a collection. -/
def isCollectionTag (tag : Tag) : Bool := [Tag.omap, .pairs, .set, .seq, .map].contains tag

/-- Whether a node is a collection, and so cannot be a key. -/
def isCollection : Node → Bool
  | .knot _ => true
  | node => isCollectionTag node.tag

/-- What is wrong with a node on its own.  Nothing yet is known to be wrong with a collection. -/
def ownFaults : Node → List DocumentFault
  | .knot _ => []
  | node =>
    if isCollectionTag node.tag then []
    else
      match node.scalarText? with
      | some text => (Scalar.fault? node.tag text).toList
      | none => [.malformed]

/-- What is wrong with the key of an entry. -/
def keyFaults (key : Node) : List DocumentFault :=
  key.ownFaults ++ if key.isCollection then [.malformed] else []

/-- What is wrong with an item of a list of pairs, which is a mapping with one entry. -/
def pairFaults : Node → List DocumentFault
  | .mapping _ [(key, item)] => key.ownFaults ++ item.ownFaults
  | _ => [.malformed]

/-- What is wrong with the merge keys of a merged mapping: those that are left bring in nothing. -/
def mergeFaults (entries : List (Node × Node)) : List DocumentFault :=
  (entries.filter fun entry => entry.1.tag = .merge).map fun _ => .malformed

/-- Two lists of levels put together level by level. -/
def joinLevels : List (List DocumentFault) → List (List DocumentFault) → List (List DocumentFault)
  | [], levels => levels
  | levels, [] => levels
  | a :: rest, b :: rest' => (a ++ b) :: joinLevels rest rest'

mutual

/-- The faults inside a node, level by level from the outside. -/
def innerFaults : Node → List (List DocumentFault)
  | .scalar tag _ => if isCollectionTag tag then [[.malformed]] else []
  | .sequence .seq items => (items.flatMap ownFaults) :: innerFaultsOfItems items
  | .sequence .omap items => (items.flatMap pairFaults) :: innerFaultsOfPairs items
  | .sequence .pairs items => (items.flatMap pairFaults) :: innerFaultsOfPairs items
  | .sequence tag _ => if isCollectionTag tag then [[.malformed]] else []
  | .mapping .map entries => joinLevels [mergeFaults entries] (entryFaults entries)
  | .mapping .set entries => joinLevels [mergeFaults entries] (entryFaults entries)
  | .mapping tag _ => if isCollectionTag tag then [[.malformed]] else []
  | .knot _ => []

/-- The faults inside some nodes. -/
def innerFaultsOfItems : List Node → List (List DocumentFault)
  | [] => []
  | item :: rest => joinLevels (innerFaults item) (innerFaultsOfItems rest)

/-- The faults inside the pairs that some nodes stand for. -/
def innerFaultsOfPairs : List Node → List (List DocumentFault)
  | [] => []
  | item :: rest => joinLevels (innerFaultsOfPair item) (innerFaultsOfPairs rest)

/-- The faults inside the pair that a node stands for. -/
def innerFaultsOfPair : Node → List (List DocumentFault)
  | .mapping _ entries => innerFaultsOfParts entries
  | _ => []

/-- The faults inside the keys of some entries and inside what stands at them. -/
def innerFaultsOfParts : List (Node × Node) → List (List DocumentFault)
  | [] => []
  | (key, item) :: rest =>
    joinLevels (joinLevels (innerFaults key) (innerFaults item)) (innerFaultsOfParts rest)

/-- The faults of some entries. -/
def entryFaults : List (Node × Node) → List (List DocumentFault)
  | [] => []
  | (key, item) :: rest =>
    joinLevels
      ((key.keyFaults ++ item.ownFaults) :: joinLevels (innerFaults key) (innerFaults item))
      (entryFaults rest)

end

/-- The faults in a merged node, level by level from the outside. -/
def faults (node : Node) : List (List DocumentFault) := node.ownFaults :: node.innerFaults

end Node

/-- The value of a document with a given root. -/
def Value.ofNode (node : Node) : Except DocumentFault Value :=
  match node.merge.faults.flatten with
  | fault :: _ => .error fault
  | [] => .ok node.merge.value

/-- The value that a text stands for; nothing if it holds no document. -/
def read : Reader := fun text => do
  match ← Node.ofTokens? (← Token.ofText? text) with
  | none => .ok .null
  | some node => Value.ofNode node

end ModuleReach.Yaml
