import ModuleReach.Resolution.Module

/-!
# Resolving addons

A native addon is a binary in the package that its specifier names.  The binaries of a package are stored by host, as
`prebuilds/<host>/<name><extension>`; the hosts are tried in order, and for each host the extensions.

A path names the package that encloses it.  A specifier that begins with `#` first goes through the `imports` of the nearest
manifest, to the first target that they give.

## Main definitions

* `Addon.remap?` — the target of a `#` specifier, with the directory to read it from.
* `Addon.package?` — the directory of the package that a specifier names, with its manifest.
* `Addon.binaryPath` — the place of a package's binary for a host.
* `Resolution.addon` — the answer for a specifier.
-/

namespace ModuleReach

namespace Addon

/-- The extensions of binaries unless something else is asked for. -/
def standardExtensions : List String := [".node", ".bare"]

/-- The first target that `imports` give for a specifier under one of the sets of conditions. -/
def firstImport? (imports : List (String × Json)) (specifier : String) : Conditions → Option String
  | [] => none
  | conditions :: rest =>
    match Manifest.matchSubpath imports specifier conditions with
    | target :: _ => some target
    | [] => firstImport? imports specifier rest

/-- The target of a `#` specifier, with the directory to read it from. -/
def remap? (store : Store) (specifier base : String) (conditions : Conditions) :
    Run (Option (String × String)) := do
  match ← Manifest.scope store base with
  | none => pure none
  | some (directory, manifest) =>
    pure ((manifest.imports?.bind (firstImport? · specifier (conditionMatrix conditions))).map
      (·, directory))

/-- The first package of a name, with its manifest, below one of some directories. -/
def firstPackage (store : Store) (name : String) : List String → Run (Option (String × Manifest))
  | [] => pure none
  | directory :: rest => do
    let package := Search.packageDirectory directory name
    match ← Manifest.read store package with
    | some manifest => pure (some (package, manifest))
    | none => firstPackage store name rest

/-- The directory of the package that a specifier names, with its manifest if it has one. -/
def package? (store : Store) (specifier base : String) :
    Run (Option (String × Option Manifest)) :=
  if Specifier.isPath specifier then do
    let target := Path.normalize (Path.join base specifier)
    match ← Manifest.scope store target with
    | some (directory, manifest) => pure (some (directory, some manifest))
    | none => pure (some (target, none))
  else
    match Specifier.package? specifier with
    | none => pure none
    | some ref => do
      let found ← firstPackage store ref.name (Search.packageBases base)
      pure (found.map fun p => (p.1, some p.2))

/-- The place of a package's binary for a host. -/
def binaryPath (package name host extension : String) : String :=
  Path.join (Path.join (Path.join package "prebuilds") host) (name ++ extension)

/-- A package's binary: host by host, and for each host with every extension. -/
def binaryLookup (store : Store) (package name : String) (hosts extensions : List String) : Lookup :=
  Lookup.each (fun host =>
    Lookup.each (fun extension => Lookup.probe store (binaryPath package name host extension))
      extensions) hosts <|>
    Lookup.note (.noPrebuild name package)

/-- The binary of the package that a specifier names, seen from a directory. -/
def lookup (store : Store) (specifier base : String) (hosts extensions : List String) : Lookup :=
  Lookup.reading (package? store specifier base) fun
    | none => Lookup.nothing
    | some (directory, manifest) =>
      binaryLookup store directory (Manifest.prebuildName directory manifest) hosts extensions

/-- The binary of the package that a specifier names, which may begin with `#`. -/
def remappedLookup (store : Store) (specifier base : String) (conditions : Conditions)
    (hosts extensions : List String) : Lookup :=
  if Specifier.isInternal specifier then
    Lookup.reading (remap? store specifier base conditions) fun
      | none => Lookup.nothing
      | some (target, directory) => lookup store target directory hosts extensions
  else lookup store specifier base hosts extensions

end Addon

/-- The file that a specifier names as an addon; the empty specifier stands for `.`.  Addons that are part of the system,
`linked` ones, are refused. -/
def Resolution.addon (store : Store) (specifier : String) (referrer : Option Url)
    (extensions : List String) (conditions : Conditions) (hosts : List String) (linked : Bool) :
    Run Resolution :=
  if linked then Run.fail .linkedAddon
  else
    let specifier := if specifier = "" then "." else specifier
    Resolution.ofLookup store specifier referrer <|
      Addon.remappedLookup store specifier (Resolution.baseOf referrer) conditions hosts extensions

end ModuleReach
