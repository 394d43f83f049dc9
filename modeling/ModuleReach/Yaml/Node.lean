import ModuleReach.Yaml.Tag
import ModuleReach.Yaml.Token.Lexer

/-!
# The nodes of a document

A document is one node: a scalar, a sequence of nodes, or a mapping from nodes to nodes, each with a tag.  A reference to an anchor
is replaced by the node that the anchor names; inside that very node, it is a knot.

The nodes are built from the tokens by recursive descent.  Each function takes the tokens that are left and gives a result with those
left after it.  Between any two calls at the same token there are at most three more, which bounds the recursion by
the number of tokens.

## Main definitions

* `Yaml.Node` — the nodes.
* `Yaml.Node.ofTokens?` — the node of a document, if there is one.
-/

namespace ModuleReach.Yaml

/-- A node of a document. -/
inductive Node
  | scalar (tag : Tag) (text : String)
  | sequence (tag : Tag) (items : List Node)
  | mapping (tag : Tag) (entries : List (Node × Node))
  /-- A reference to a collection that the reference is part of. -/
  | knot (isMapping : Bool)
  deriving Repr

namespace Node

/-- The node for a place where nothing is written. -/
def nothing : Node := .scalar .null ""

/-- What is known while a document is read. -/
structure Context where
  /-- The tokens that are left. -/
  tokens : List Token
  /-- The nodes with anchors, the last first. -/
  anchors : List (String × Node)
  /-- What the tag handles stand for. -/
  handles : List (String × String)

/-- A function on the tokens that are left. -/
abbrev Reader (α : Type) := StateT Context (Except DocumentFault) α

namespace Reader

/-- Refuses the document. -/
def refuse {α : Type} : Reader α := fun _ => .error .malformed

/-- The next token; the last one is the end of the document. -/
def peek : Reader (Option Token) := do pure (← get).tokens.head?

/-- Goes past the next token. -/
def drop : Reader Unit := modify fun s => { s with tokens := s.tokens.tail }

/-- Whether the next token is one of the given ones, or the end. -/
def atOneOf (tokens : List Token) : Reader Bool := do
  match ← peek with
  | some token => pure (tokens.contains token)
  | none => pure false

/-- Goes past the next token if it is the given one. -/
def accept (token : Token) : Reader Bool := do
  if (← peek) = some token then drop *> pure true else pure false

/-- What an anchor names. -/
def lookup (name : String) : Reader Node := do
  match (← get).anchors.find? fun a => a.1 == name with
  | some a => pure a.2
  | none => refuse

/-- Lets an anchor, if there is one, name a node. -/
def bind (anchor : Option String) (node : Node) : Reader Unit :=
  match anchor with
  | some name => modify fun s => { s with anchors := (name, node) :: s.anchors }
  | none => pure ()

/-- What a tag handle stands for. -/
def meaning (handle : String) : Reader String := do
  match (← get).handles.find? fun h => h.1 == handle with
  | some h => pure h.2
  | none => refuse

/-- The anchor at the next token. -/
def anchor? : Reader (Option String) := do
  match ← peek with
  | some (.anchor name) => drop *> pure (some name)
  | _ => pure none

/-- The name of the tag at the next token. -/
def tag? : Reader (Option String) := do
  match ← peek with
  | some (.tag ⟨none, suffix⟩) => drop *> pure (some suffix)
  | some (.tag ⟨some handle, suffix⟩) => do
    drop
    pure (some ((← meaning handle) ++ suffix))
  | _ => pure none

/-- The anchor and the tag at the next tokens, in either order. -/
def properties : Reader (Option String × Option String) := do
  match ← anchor? with
  | some anchor => pure (some anchor, ← tag?)
  | none => do
    let tag ← tag?
    pure (← anchor?, tag)

end Reader

/-- The tag of a collection, where `standard` is that of its sort. -/
def collectionTag (tag : Option String) (standard : Tag) : Tag :=
  match tag with
  | none => standard
  | some "!" => standard
  | some name => Tag.ofName name

/-- The tag of a scalar: the one that is written, or the one that its spelling suggests if it is plain or if an empty tag is
written, or that of a text. -/
def scalarTag (tag : Option String) (plain : Bool) (text : String) : Tag :=
  match tag with
  | none => if plain then Tag.ofPlain text else .str
  | some "!" => Tag.ofPlain (String.ofList (Tag.withoutFinalBreak text.toList))
  | some name => Tag.ofName name

/-- Where a node stands, and so which forms it may have. -/
inductive Place
  /-- In a flow collection. -/
  | flow
  /-- In a block. -/
  | block
  /-- In a block mapping, where a sequence may go without indentation. -/
  | entry
  deriving DecidableEq, Repr

open Reader

mutual

/-- A node. -/
def node (place : Place) : Nat → Reader Node
  | 0 => refuse
  | fuel + 1 => do
    match ← peek with
    | some (.alias name) => drop *> lookup name
    | _ =>
      let (anchor, tag) ← properties
      if let some name := anchor then
        if (← get).anchors.any fun a => a.1 == name then refuse
      match ← peek with
      | some (.scalar text plain) =>
        drop
        let node := Node.scalar (scalarTag tag plain text) text
        bind anchor node
        pure node
      | some .blockEntry =>
        if place = .entry then
          bind anchor (.knot false)
          let node := Node.sequence (collectionTag tag .seq) (← looseItems fuel)
          bind anchor node
          pure node
        else absent anchor tag
      | some .flowSequenceStart =>
        drop
        bind anchor (.knot false)
        let node := Node.sequence (collectionTag tag .seq) (← flowItems true fuel)
        bind anchor node
        pure node
      | some .flowMappingStart =>
        drop
        bind anchor (.knot true)
        let node := Node.mapping (collectionTag tag .map) (← flowEntries true fuel)
        bind anchor node
        pure node
      | some .blockSequenceStart =>
        if place = .flow then absent anchor tag
        else
          drop
          bind anchor (.knot false)
          let node := Node.sequence (collectionTag tag .seq) (← blockItems fuel)
          bind anchor node
          pure node
      | some .blockMappingStart =>
        if place = .flow then absent anchor tag
        else
          drop
          bind anchor (.knot true)
          let node := Node.mapping (collectionTag tag .map) (← blockEntries fuel)
          bind anchor node
          pure node
      | _ => absent anchor tag

/-- A node of which only an anchor or a tag is written. -/
def absent (anchor tag : Option String) : Reader Node :=
  if anchor.isNone && tag.isNone then refuse
  else do
    let node := Node.scalar (scalarTag tag true "") ""
    bind anchor node
    pure node

/-- A node, or nothing if the next token is one of the given ones. -/
def nodeUnless (place : Place) (ends : List Token) : Nat → Reader Node
  | 0 => refuse
  | fuel + 1 => do
    if ← atOneOf ends then pure nothing else node place fuel

/-- The items of a block sequence with indentation, up to its end. -/
def blockItems : Nat → Reader (List Node)
  | 0 => refuse
  | fuel + 1 => do
    if ← accept .blockEntry then
      let item ← nodeUnless .block [.blockEntry, .blockEnd] fuel
      pure (item :: (← blockItems fuel))
    else if ← accept .blockEnd then pure []
    else refuse

/-- The items of a block sequence without indentation of its own. -/
def looseItems : Nat → Reader (List Node)
  | 0 => refuse
  | fuel + 1 => do
    if ← accept .blockEntry then
      let item ← nodeUnless .block [.blockEntry, .key, .value, .blockEnd] fuel
      pure (item :: (← looseItems fuel))
    else pure []

/-- The entries of a block mapping, up to its end. -/
def blockEntries : Nat → Reader (List (Node × Node))
  | 0 => refuse
  | fuel + 1 => do
    let ends := [Token.key, .value, .blockEnd]
    if ← accept .key then
      let key ← nodeUnless .entry ends fuel
      let value ← if ← accept .value then nodeUnless .entry ends fuel else pure nothing
      pure ((key, value) :: (← blockEntries fuel))
    else if ← accept .blockEnd then pure []
    else refuse

/-- The items of a flow sequence, up to its end; after each but the `first` there is a comma. -/
def flowItems (first : Bool) : Nat → Reader (List Node)
  | 0 => refuse
  | fuel + 1 => do
    if ← accept .flowSequenceEnd then pure []
    else
      if !first then
        if !(← accept .flowEntry) then refuse
      if ← accept .key then
        let key ← nodeUnless .flow [.value, .flowEntry, .flowSequenceEnd] fuel
        let value ←
          if ← accept .value then nodeUnless .flow [.flowEntry, .flowSequenceEnd] fuel
          else pure nothing
        pure (.mapping .map [(key, value)] :: (← flowItems false fuel))
      else if ← accept .flowSequenceEnd then pure []
      else
        let item ← node .flow fuel
        pure (item :: (← flowItems false fuel))

/-- The entries of a flow mapping, up to its end; after each but the `first` there is a comma. -/
def flowEntries (first : Bool) : Nat → Reader (List (Node × Node))
  | 0 => refuse
  | fuel + 1 => do
    if ← accept .flowMappingEnd then pure []
    else
      if !first then
        if !(← accept .flowEntry) then refuse
      if ← accept .key then
        let key ← nodeUnless .flow [.value, .flowEntry, .flowMappingEnd] fuel
        let value ←
          if ← accept .value then nodeUnless .flow [.flowEntry, .flowMappingEnd] fuel
          else pure nothing
        pure ((key, value) :: (← flowEntries false fuel))
      else if ← accept .flowMappingEnd then pure []
      else
        let key ← node .flow fuel
        pure ((key, nothing) :: (← flowEntries false fuel))

end

/-! ### Documents -/

/-- The tag handles that have a meaning from the start. -/
def standardHandles : List (String × String) := [("!", "!"), ("!!", Tag.commonName)]

/-- What the directives at the front say of tag handles, and the tokens after them.  At most one directive demands a version,
which must be the first one of the format, and no tag handle gets two meanings. -/
def directives (versioned : Bool) (handles : List (String × String)) :
    List Token → Except DocumentFault (List (String × String) × List Token)
  | .version major _ :: rest =>
    if versioned || major ≠ 1 then .error .malformed else directives true handles rest
  | .tagHandle handle meaning :: rest =>
    if handles.any fun h => h.1 == handle then .error .malformed
    else directives versioned ((handle, meaning) :: handles) rest
  | .directive :: rest => directives versioned handles rest
  | rest => .ok (handles, rest)

/-- The root of a document whose tokens are left, and the tokens after it. -/
def root (handles : List (String × String)) (tokens : List Token) :
    Except DocumentFault (Node × List Token) := do
  let (found, context) ← (node .block (4 * tokens.length + 4)).run ⟨tokens, [], handles⟩
  .ok (found, context.tokens)

/-- Whether a token ends a document before its root has begun. -/
def endsDocument : List Token → Bool
  | [] => true
  | .documentEnd :: _ => true
  | .documentStart :: _ => true
  | .version .. :: _ => true
  | .tagHandle .. :: _ => true
  | .directive :: _ => true
  | _ => false

/-- A document that begins with directives or a line of dashes. -/
def explicit (tokens : List Token) : Except DocumentFault (Node × List Token) := do
  let (handles, rest) ← directives false [] tokens
  match rest with
  | .documentStart :: rest =>
    if endsDocument rest then .ok (nothing, rest) else root (handles ++ standardHandles) rest
  | _ => .error .malformed

/-- The node of the one document that some tokens hold; none if there is no token. -/
def ofTokens? (tokens : List Token) : Except DocumentFault (Option Node) :=
  match tokens with
  | [] => .ok none
  | first :: _ => do
    let (found, rest) ←
      if first ≠ .documentEnd && endsDocument tokens then explicit tokens
      else root standardHandles tokens
    if rest.all (· == .documentEnd) then .ok (some found) else .error .malformed

end Node

end ModuleReach.Yaml
