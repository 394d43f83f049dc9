import ModuleReach.Manifest.Basic
import ModuleReach.Manifest.Subpath
import ModuleReach.Resolution.Basic
import ModuleReach.Specifier

/-!
# Resolving modules

A path is looked for as a file, then with each extension, then as a directory: the `main` of its manifest, and `index` with each
extension.  A specifier that begins with `#` goes through the `imports` of the nearest manifest.  Any other one names a
package, which is looked for in the `node_modules` of every directory from the referrer's upwards; a package with `exports`
gives out only what they say.

Conditions come as a list of sets, and each set is tried in turn.

## Main definitions

* `Search` — where and with which extensions and conditions to look.
* `Search.fileLookup`, `Search.indexLookup`, `Search.directoryLookup`, `Search.pathLookup` — looking for a path.
* `Search.packageLookup`, `Search.importLookup` — looking for a package, and through `imports`.
* `Resolution.module` — the answer for a specifier.
-/

namespace ModuleReach

/-- Sets of conditions in order of precedence, each as a list. -/
abbrev Conditions := List (List String)

/-- The sets of conditions to try: with none given, the one set without conditions. -/
def conditionMatrix (conditions : Conditions) : Conditions :=
  if conditions = [] then [[]] else conditions

/-- Where and how to look for a module. -/
structure Search where
  store : Store
  /-- The extensions to append, in order of preference. -/
  extensions : List String
  /-- The sets of conditions to try. -/
  matrix : Conditions

namespace Search

open Manifest (exportTargets matchSubpath)

/-- Look whether there is a file. -/
def probe (s : Search) (path : String) : Lookup := Lookup.probe s.store path

/-- A file at a path, or at the path with an extension. -/
def fileLookup (s : Search) (path : String) : Lookup :=
  s.probe path <|> Lookup.each (fun extension => s.probe (path ++ extension)) s.extensions

/-- A file `index` with an extension in a directory. -/
def indexLookup (s : Search) (directory : String) : Lookup :=
  Lookup.each (fun extension => s.probe (Path.join directory ("index" ++ extension))) s.extensions

/-- What the `main` of a manifest names in its directory. -/
def mainLookup (s : Search) (directory : String) (manifest : Option Manifest) : Lookup :=
  match manifest.bind (·.text? "main") with
  | none => Lookup.nothing
  | some main =>
    let path := Path.normalize (Path.join directory main)
    s.fileLookup path <|> s.indexLookup path

/-- The file that stands for a directory. -/
def directoryLookup (s : Search) (directory : String) : Lookup :=
  Lookup.reading (Manifest.read s.store directory) fun manifest =>
    s.mainLookup directory manifest <|> s.indexLookup directory

/-- A file or directory at a path. -/
def pathLookup (s : Search) (path : String) : Lookup := s.fileLookup path <|> s.directoryLookup path

/-- The directory of a package below a directory. -/
def packageDirectory (directory name : String) : String :=
  Path.normalize (Path.join (Path.join directory "node_modules") name)

/-- The directories, from a given one upwards, whose `node_modules` may hold a package. -/
def packageBases (directory : String) : List String :=
  (Path.ancestors directory).filter fun d => Path.name d ≠ "node_modules"

/-- What a package's `exports` give for a path in the package. -/
def exportLookup (s : Search) (exports : Json) (package subpath : String) : Lookup :=
  Lookup.each (fun conditions =>
    Lookup.each (fun target => s.probe (Path.join package target))
      (exportTargets exports subpath conditions)) s.matrix

/-- A path in a package without `exports`. -/
def openLookup (s : Search) (package subpath : String) : Lookup :=
  if subpath = "." then s.directoryLookup package else s.pathLookup (Path.join package subpath)

/-- A package below the first directory that has it; the search ends at one with `exports`. -/
def packageLookupFrom (s : Search) (specifier : String) (ref : Specifier.PackageRef) :
    List String → Lookup
  | [] => Lookup.nothing
  | directory :: rest =>
    let package := packageDirectory directory ref.name
    Lookup.reading (Manifest.read s.store package) fun manifest =>
      match manifest.bind (·.field? "exports") with
      | some exports =>
        s.exportLookup exports package ref.subpath <|>
          Lookup.note (.notExported specifier ref.subpath package)
      | none => s.openLookup package ref.subpath <|> packageLookupFrom s specifier ref rest

/-- What a specifier names as a package, seen from a directory. -/
def packageLookup (s : Search) (specifier directory : String) : Lookup :=
  match Specifier.package? specifier with
  | none => Lookup.nothing
  | some ref => s.packageLookupFrom specifier ref (packageBases directory)

/-- What a target of `imports` names, seen from the directory of their manifest. -/
def importTargetLookup (s : Search) (directory target : String) : Lookup :=
  if Specifier.isPath target then s.probe (Path.join directory target)
  else s.packageLookup target directory

/-- What the `imports` of a scope give for a specifier. -/
def importLookupIn (s : Search) (specifier : String) : Option (String × Manifest) → Lookup
  | none => Lookup.nothing
  | some (directory, manifest) =>
    match manifest.imports? with
    | some imports =>
      Lookup.each (fun conditions =>
        Lookup.each (s.importTargetLookup directory) (matchSubpath imports specifier conditions))
        s.matrix
    | none => Lookup.nothing

/-- What a specifier names through the `imports` of the nearest manifest. -/
def importLookup (s : Search) (specifier directory : String) : Lookup :=
  Lookup.reading (Manifest.scope s.store directory) (s.importLookupIn specifier)

/-- What a specifier names, seen from a directory. -/
def lookup (s : Search) (specifier directory : String) : Lookup :=
  if Specifier.isPath specifier then s.pathLookup (Path.join directory specifier)
  else if Specifier.isInternal specifier then s.importLookup specifier directory
  else s.packageLookup specifier directory

end Search

/-- The file that a specifier names as a module. -/
def Resolution.module (store : Store) (specifier : String) (referrer : Option Url)
    (extensions : List String) (conditions : Conditions) : Run Resolution :=
  let search : Search := ⟨store, extensions, conditionMatrix conditions⟩
  Resolution.ofLookup store specifier referrer (search.lookup specifier (Resolution.baseOf referrer))

end ModuleReach
