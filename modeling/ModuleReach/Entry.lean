/-!
# Entries

An entry is one place of a module source that asks for another file.  Two independent things are known of it: what it
asks for (a native addon, an asset, or a module) and how (by a call of `require` or by an `import`).

## Main definitions

* `Entry` — a specifier and what is known of the place where it stands.
* `Entry.Kind`, `Entry.kind` — the one word that describes an entry best.
-/

namespace ModuleReach

/-- One place of a module source that asks for another file. -/
structure Entry where
  /-- The name asked for, as it is written. -/
  specifier : String
  /-- A native addon is asked for. -/
  isAddon : Bool
  /-- A file is asked for as it is, not as code. -/
  isAsset : Bool
  /-- The place is a call of `require`. -/
  isRequire : Bool
  /-- The place is an `import` or an `export … from`. -/
  isImport : Bool
  deriving DecidableEq, Repr

namespace Entry

/-- What an entry is, in one word. -/
inductive Kind
  | addon
  | asset
  | require
  | imported
  | plain
  deriving DecidableEq, Repr

/-- The word itself. -/
def Kind.label : Kind → String
  | .addon => "addon"
  | .asset => "asset"
  | .require => "require"
  | .imported => "import"
  | .plain => "module"

/-- What is asked for counts before how, and `require` before `import`. -/
def kind (e : Entry) : Kind :=
  if e.isAddon then .addon
  else if e.isAsset then .asset
  else if e.isRequire then .require
  else if e.isImport then .imported
  else .plain

/-- Addons and assets are leaves: nothing is looked for inside them. -/
def isLeaf (e : Entry) : Bool := e.isAddon || e.isAsset

/-- An entry about which nothing is known but its specifier. -/
def ofSpecifier (specifier : String) : Entry := ⟨specifier, false, false, false, false⟩

end Entry

end ModuleReach
