import ModuleReach.Resolution.Addon
import ModuleReach.Proofs.Resolution.Lookup

/-!
# Where searches look

The manifests in a closed store, with the extensions and the sets of conditions, say where a search looks.  The places are worked
out from them here without a store: no other file has a part in it.  A search for a module, or for a package's binary, in a
closed store looks at just the places that its manifests give.

## Main definitions

* `Manifest.of?` — the manifest of a directory, without the notes.
* `Outlook` — the manifests of all directories, with the extensions and the sets of conditions.
* `Outlook.places` — where a search for a module looks.
* `Outlook.addonPlaces` — where a search for a binary looks.

## Main results

* `Search.looksAt_lookup`, `Addon.looksAt_remappedLookup` — both searches look at these places.
* `Resolution.outcome_module`, `Resolution.outcome_addon` — the answers to both.
-/

namespace ModuleReach

/-! ### Manifests -/

namespace Manifest

/-- What the bytes of a manifest say, if they are well formed. -/
def parse? (content : Bytes) : Option Manifest :=
  match Utf8.decode content with
  | .error _ => none
  | .ok text =>
    match Json.read? text with
    | some (.object fields) => some fields
    | _ => none

/-- The manifest of a directory. -/
def of? (s : Store) (directory : String) : Option Manifest :=
  (s.content? (path directory)).bind parse?

theorem outcome_ofBytes (path : String) (content : Bytes) :
    (ofBytes path content).outcome = .ok (parse? content) := by
  unfold ofBytes parse?
  cases Utf8.decode content with
  | error m => rfl
  | ok text =>
    dsimp only
    cases Json.read? text with
    | none => rfl
    | some value => cases value <;> rfl

/-- The name of a manifest. -/
theorem name_path (directory : String) : Path.name (path directory) = "package.json" := by
  have hsegment : Path.IsSegment "package.json".toList := by
    refine ⟨by decide, by decide, by decide, ?_⟩
    simp [Path.isSeparator]
  exact Path.name_normalize_join directory hsegment

theorem outcome_read {s : Store} (hs : s.Closed) (directory : String) :
    (read s directory).outcome = .ok (of? s directory) := by
  rw [read, Store.read_eq hs, of?]
  cases hcontent : s.content? (path directory) with
  | none => rfl
  | some content =>
    have hname : Path.name (Path.normalize (path directory)) = "package.json" := by
      rw [path, Path.normalize_normalize]
      exact name_path directory
    dsimp only
    rw [Store.refuses_eq_false hs hname hcontent, if_neg Bool.false_ne_true]
    exact outcome_ofBytes _ _

theorem outcome_firstScope {s : Store} (hs : s.Closed) (directories : List String) :
    (firstScope s directories).outcome =
      .ok (directories.findSome? fun d => (of? s d).map (d, ·)) := by
  induction directories with
  | nil => rfl
  | cons directory rest ih =>
    rw [firstScope, Run.outcome_bind, outcome_read hs, List.findSome?_cons]
    cases h : of? s directory with
    | none => simpa [Except.bind, h] using ih
    | some manifest => simp [Except.bind]

end Manifest

/-! ### Places -/

/-- What a search in a closed store depends on, apart from which files there are. -/
structure Outlook where
  /-- The manifests of the directories. -/
  manifest? : String → Option Manifest
  extensions : List String
  matrix : Conditions

namespace Outlook

open Manifest (exportTargets matchSubpath)
open Search (packageDirectory packageBases)

variable (o : Outlook)

/-- The nearest directory, from a given one upwards, that has a manifest. -/
def scope? (directory : String) : Option (String × Manifest) :=
  (Path.ancestors directory).findSome? fun d => (o.manifest? d).map (d, ·)

/-- A path, and the path with each extension. -/
def filePlaces (path : String) : List String :=
  Path.normalize path :: o.extensions.map fun extension => Path.normalize (path ++ extension)

/-- The name `index` with each extension in a directory. -/
def indexPlaces (directory : String) : List String :=
  o.extensions.map fun extension => Path.normalize (Path.join directory ("index" ++ extension))

/-- The places for the `main` of a manifest. -/
def mainPlaces (directory : String) (manifest : Option Manifest) : List String :=
  match manifest.bind (·.text? "main") with
  | none => []
  | some main =>
    let path := Path.normalize (Path.join directory main)
    o.filePlaces path ++ o.indexPlaces path

/-- The places for a directory. -/
def directoryPlaces (directory : String) : List String :=
  o.mainPlaces directory (o.manifest? directory) ++ o.indexPlaces directory

/-- The places for a file or directory at a path. -/
def pathPlaces (path : String) : List String := o.filePlaces path ++ o.directoryPlaces path

/-- The places that a package's `exports` give for a path in the package. -/
def exportPlaces (exports : Json) (package subpath : String) : List String :=
  o.matrix.flatMap fun conditions =>
    (exportTargets exports subpath conditions).map fun target =>
      Path.normalize (Path.join package target)

/-- The places for a path in a package without `exports`. -/
def openPlaces (package subpath : String) : List String :=
  if subpath = "." then o.directoryPlaces package else o.pathPlaces (Path.join package subpath)

/-- The places for a package below some directories, down to the first where it has `exports`. -/
def packagePlacesFrom (ref : Specifier.PackageRef) : List String → List String
  | [] => []
  | directory :: rest =>
    let package := packageDirectory directory ref.name
    match (o.manifest? package).bind (·.field? "exports") with
    | some exports => o.exportPlaces exports package ref.subpath
    | none => o.openPlaces package ref.subpath ++ packagePlacesFrom ref rest

/-- The places for a package, seen from a directory. -/
def packagePlaces (specifier directory : String) : List String :=
  match Specifier.package? specifier with
  | none => []
  | some ref => o.packagePlacesFrom ref (packageBases directory)

/-- The places for a target of `imports`, seen from the directory of their manifest. -/
def importTargetPlaces (directory target : String) : List String :=
  if Specifier.isPath target then [Path.normalize (Path.join directory target)]
  else o.packagePlaces target directory

/-- The places that the `imports` of a scope give for a specifier. -/
def importPlacesIn (specifier : String) : Option (String × Manifest) → List String
  | none => []
  | some (directory, manifest) =>
    match manifest.imports? with
    | some imports =>
      o.matrix.flatMap fun conditions =>
        (matchSubpath imports specifier conditions).flatMap (o.importTargetPlaces directory)
    | none => []

/-- The places for a module, seen from a directory. -/
def places (specifier directory : String) : List String :=
  if Specifier.isPath specifier then o.pathPlaces (Path.join directory specifier)
  else if Specifier.isInternal specifier then o.importPlacesIn specifier (o.scope? directory)
  else o.packagePlaces specifier directory

/-- The target of a `#` specifier, with the directory to read it from. -/
def remap? (specifier base : String) : Option (String × String) :=
  (o.scope? base).bind fun scope =>
    (scope.2.imports?.bind (Addon.firstImport? · specifier o.matrix)).map (·, scope.1)

/-- The directory of the package that a specifier names, with its manifest if it has one. -/
def package? (specifier base : String) : Option (String × Option Manifest) :=
  if Specifier.isPath specifier then
    let target := Path.normalize (Path.join base specifier)
    match o.scope? target with
    | some (directory, manifest) => some (directory, some manifest)
    | none => some (target, none)
  else
    (Specifier.package? specifier).bind fun ref =>
      (((packageBases base).map (packageDirectory · ref.name)).findSome? fun package =>
        (o.manifest? package).map (package, ·)).map fun found => (found.1, some found.2)

/-- The places for a package's binary. -/
def binaryPlaces (package name : String) (hosts : List String) : List String :=
  hosts.flatMap fun host => o.extensions.map fun extension =>
    Path.normalize (Addon.binaryPath package name host extension)

/-- The places for the binary of the package that a specifier names, seen from a directory. -/
def ownPlaces (specifier base : String) (hosts : List String) : List String :=
  match o.package? specifier base with
  | none => []
  | some (directory, manifest) =>
    o.binaryPlaces directory (Manifest.prebuildName directory manifest) hosts

/-- The places for an addon, seen from a directory. -/
def addonPlaces (specifier base : String) (hosts : List String) : List String :=
  if Specifier.isInternal specifier then
    match o.remap? specifier base with
    | none => []
    | some (target, directory) => o.ownPlaces target directory hosts
  else o.ownPlaces specifier base hosts

end Outlook

/-- The outlook of searches in a store. -/
def Store.outlook (s : Store) (extensions : List String) (matrix : Conditions) : Outlook :=
  ⟨Manifest.of? s, extensions, matrix⟩

theorem Manifest.outcome_scope {s : Store} (hs : s.Closed) (extensions : List String)
    (matrix : Conditions) (directory : String) :
    (scope s directory).outcome = .ok ((s.outlook extensions matrix).scope? directory) :=
  outcome_firstScope hs _

/-! ### Searches for modules -/

namespace Search

variable {s : Search}

/-- The outlook of a search. -/
def outlook (s : Search) : Outlook := s.store.outlook s.extensions s.matrix

theorem looksAt_fileLookup (hs : s.store.Closed) (path : String) :
    (s.fileLookup path).LooksAt s.store (s.outlook.filePlaces path) :=
  (Lookup.looksAt_probe hs path).orElse (Lookup.looksAt_each_probe hs _ _)

theorem looksAt_indexLookup (hs : s.store.Closed) (directory : String) :
    (s.indexLookup directory).LooksAt s.store (s.outlook.indexPlaces directory) :=
  Lookup.looksAt_each_probe hs _ _

theorem looksAt_mainLookup (hs : s.store.Closed) (directory : String) (manifest : Option Manifest) :
    (s.mainLookup directory manifest).LooksAt s.store (s.outlook.mainPlaces directory manifest) := by
  unfold mainLookup Outlook.mainPlaces
  cases manifest.bind (·.text? "main") with
  | none => exact Lookup.looksAt_nothing _
  | some main => exact (looksAt_fileLookup hs _).orElse (looksAt_indexLookup hs _)

theorem looksAt_directoryLookup (hs : s.store.Closed) (directory : String) :
    (s.directoryLookup directory).LooksAt s.store (s.outlook.directoryPlaces directory) :=
  Lookup.looksAt_reading (Manifest.outcome_read hs directory)
    ((looksAt_mainLookup hs _ _).orElse (looksAt_indexLookup hs _))

theorem looksAt_pathLookup (hs : s.store.Closed) (path : String) :
    (s.pathLookup path).LooksAt s.store (s.outlook.pathPlaces path) :=
  (looksAt_fileLookup hs path).orElse (looksAt_directoryLookup hs path)

theorem looksAt_exportLookup (hs : s.store.Closed) (exports : Json) (package subpath : String) :
    (s.exportLookup exports package subpath).LooksAt s.store
      (s.outlook.exportPlaces exports package subpath) :=
  Lookup.LooksAt.each (fun _ => Lookup.looksAt_each_probe hs _ _) _

theorem looksAt_openLookup (hs : s.store.Closed) (package subpath : String) :
    (s.openLookup package subpath).LooksAt s.store (s.outlook.openPlaces package subpath) := by
  unfold openLookup Outlook.openPlaces
  by_cases h : subpath = "."
  · rw [if_pos h, if_pos h]
    exact looksAt_directoryLookup hs _
  · rw [if_neg h, if_neg h]
    exact looksAt_pathLookup hs _

/-- A package with `exports` ends the search, so the directories after it give no places. -/
theorem looksAt_packageLookupFrom (hs : s.store.Closed) (specifier : String)
    (ref : Specifier.PackageRef) (directories : List String) :
    (s.packageLookupFrom specifier ref directories).LooksAt s.store
      (s.outlook.packagePlacesFrom ref directories) := by
  induction directories with
  | nil => exact Lookup.looksAt_nothing _
  | cons directory rest ih =>
    refine Lookup.looksAt_reading (Manifest.outcome_read hs _) ?_
    rw [Outlook.packagePlacesFrom]
    change Lookup.LooksAt _ _ (match (Manifest.of? s.store _).bind (·.field? "exports") with
      | some exports => _
      | none => _)
    cases (Manifest.of? s.store (packageDirectory directory ref.name)).bind (·.field? "exports") with
    | some exports =>
      -- The note that follows looks nowhere, so it adds no place.
      have h := (looksAt_exportLookup hs exports (packageDirectory directory ref.name)
        ref.subpath).orElse (Lookup.looksAt_note s.store
          (.notExported specifier ref.subpath (packageDirectory directory ref.name)))
      rwa [List.append_nil] at h
    | none => exact (looksAt_openLookup hs _ _).orElse ih

theorem looksAt_packageLookup (hs : s.store.Closed) (specifier directory : String) :
    (s.packageLookup specifier directory).LooksAt s.store
      (s.outlook.packagePlaces specifier directory) := by
  unfold packageLookup Outlook.packagePlaces
  cases Specifier.package? specifier with
  | none => exact Lookup.looksAt_nothing _
  | some ref => exact looksAt_packageLookupFrom hs _ _ _

theorem looksAt_importTargetLookup (hs : s.store.Closed) (directory target : String) :
    (s.importTargetLookup directory target).LooksAt s.store
      (s.outlook.importTargetPlaces directory target) := by
  unfold importTargetLookup Outlook.importTargetPlaces
  cases Specifier.isPath target with
  | true => exact Lookup.looksAt_probe hs _
  | false => exact looksAt_packageLookup hs _ _

theorem looksAt_importLookupIn (hs : s.store.Closed) (specifier : String)
    (scope : Option (String × Manifest)) :
    (s.importLookupIn specifier scope).LooksAt s.store
      (s.outlook.importPlacesIn specifier scope) := by
  unfold importLookupIn Outlook.importPlacesIn
  rcases scope with - | ⟨directory, manifest⟩
  · exact Lookup.looksAt_nothing _
  · dsimp only
    cases manifest.imports? with
    | none => exact Lookup.looksAt_nothing _
    | some imports =>
      exact Lookup.LooksAt.each
        (fun _ => Lookup.LooksAt.each (looksAt_importTargetLookup hs directory) _) _

/-- A search for a module looks at the places that the manifests give. -/
theorem looksAt_lookup (hs : s.store.Closed) (specifier directory : String) :
    (s.lookup specifier directory).LooksAt s.store (s.outlook.places specifier directory) := by
  unfold lookup Outlook.places
  cases Specifier.isPath specifier with
  | true => exact looksAt_pathLookup hs _
  | false =>
    cases Specifier.isInternal specifier with
    | true =>
      exact Lookup.looksAt_reading (Manifest.outcome_scope hs _ _ directory)
        (looksAt_importLookupIn hs specifier _)
    | false => exact looksAt_packageLookup hs _ _

end Search

/-- The answer for a module is the first file among the places that the manifests give. -/
theorem Resolution.outcome_module {s : Store} (hs : s.Closed) (specifier : String)
    (referrer : Option Url) (extensions : List String) (conditions : Conditions) :
    (Resolution.module s specifier referrer extensions conditions).outcome =
      .ok (firstOf s specifier referrer
        ((s.outlook extensions (conditionMatrix conditions)).places specifier (baseOf referrer))) :=
  (Search.looksAt_lookup hs specifier (baseOf referrer)).outcome_ofLookup specifier referrer

/-! ### Searches for addons -/

namespace Addon

variable {s : Store}

theorem outcome_remap? (hs : s.Closed) (specifier base : String) (extensions : List String)
    (conditions : Conditions) :
    (remap? s specifier base conditions).outcome =
      .ok ((s.outlook extensions (conditionMatrix conditions)).remap? specifier base) := by
  rw [remap?, Run.outcome_bind, Manifest.outcome_scope hs extensions (conditionMatrix conditions),
    Outlook.remap?]
  cases (s.outlook extensions (conditionMatrix conditions)).scope? base <;> rfl

theorem outcome_firstPackage (hs : s.Closed) (name : String) (directories : List String) :
    (firstPackage s name directories).outcome =
      .ok ((directories.map (Search.packageDirectory · name)).findSome? fun package =>
        (Manifest.of? s package).map (package, ·)) := by
  induction directories with
  | nil => rfl
  | cons directory rest ih =>
    rw [firstPackage, List.map_cons, List.findSome?_cons, Run.outcome_bind, Manifest.outcome_read hs]
    cases Manifest.of? s (Search.packageDirectory directory name) with
    | none => exact ih
    | some manifest => rfl

theorem outcome_package? (hs : s.Closed) (extensions : List String) (matrix : Conditions)
    (specifier base : String) :
    (package? s specifier base).outcome =
      .ok ((s.outlook extensions matrix).package? specifier base) := by
  unfold package? Outlook.package?
  cases Specifier.isPath specifier with
  | true =>
    rw [if_pos rfl, if_pos rfl, Run.outcome_bind, Manifest.outcome_scope hs extensions matrix]
    dsimp only [Except.bind]
    cases (s.outlook extensions matrix).scope? (Path.normalize (Path.join base specifier)) <;> rfl
  | false =>
    rw [if_neg (by simp), if_neg (by simp)]
    cases Specifier.package? specifier with
    | none => rfl
    | some ref =>
      dsimp only
      rw [Run.outcome_bind, outcome_firstPackage hs]
      rfl

theorem looksAt_binaryLookup (hs : s.Closed) (package name : String) (hosts extensions : List String)
    (matrix : Conditions) :
    (binaryLookup s package name hosts extensions).LooksAt s
      ((s.outlook extensions matrix).binaryPlaces package name hosts) := by
  have h := (Lookup.LooksAt.each (fun host => Lookup.looksAt_each_probe hs
    (binaryPath package name host) extensions) hosts).orElse
    (Lookup.looksAt_note s (.noPrebuild name package))
  rwa [List.append_nil] at h

theorem looksAt_lookup (hs : s.Closed) (specifier base : String) (hosts extensions : List String)
    (matrix : Conditions) :
    (lookup s specifier base hosts extensions).LooksAt s
      ((s.outlook extensions matrix).ownPlaces specifier base hosts) := by
  refine Lookup.looksAt_reading (outcome_package? hs extensions matrix specifier base) ?_
  unfold Outlook.ownPlaces
  rcases (s.outlook extensions matrix).package? specifier base with - | ⟨directory, manifest⟩
  · exact Lookup.looksAt_nothing s
  · exact looksAt_binaryLookup hs _ _ _ _ _

/-- A search for an addon looks at the places that the manifests give. -/
theorem looksAt_remappedLookup (hs : s.Closed) (specifier base : String) (conditions : Conditions)
    (hosts extensions : List String) :
    (remappedLookup s specifier base conditions hosts extensions).LooksAt s
      ((s.outlook extensions (conditionMatrix conditions)).addonPlaces specifier base hosts) := by
  unfold remappedLookup Outlook.addonPlaces
  cases Specifier.isInternal specifier with
  | false => exact looksAt_lookup hs _ _ _ _ _
  | true =>
    refine Lookup.looksAt_reading (outcome_remap? hs specifier base extensions conditions) ?_
    rcases (s.outlook extensions (conditionMatrix conditions)).remap? specifier base with
      - | ⟨target, directory⟩
    · exact Lookup.looksAt_nothing s
    · exact looksAt_lookup hs _ _ _ _ _

end Addon

/-- The answer for an addon is the first file among the places that the manifests give. -/
theorem Resolution.outcome_addon {s : Store} (hs : s.Closed) {specifier : String}
    (hspecifier : specifier ≠ "") (referrer : Option Url) (extensions : List String)
    (conditions : Conditions) (hosts : List String) :
    (Resolution.addon s specifier referrer extensions conditions hosts false).outcome =
      .ok (firstOf s specifier referrer
        ((s.outlook extensions (conditionMatrix conditions)).addonPlaces specifier
          (baseOf referrer) hosts)) := by
  rw [Resolution.addon, if_neg (by simp)]
  dsimp only
  rw [if_neg hspecifier]
  exact (Addon.looksAt_remappedLookup hs specifier (baseOf referrer) conditions hosts
    extensions).outcome_ofLookup specifier referrer

end ModuleReach
