import Mathlib
import ModuleReach.Proofs.Resolution.Outlook
import ModuleReach.Proofs.Store.Filled

/-!
# Packages with exports

A package with `exports` gives out only what they say.  A search for a bare specifier goes through the `node_modules` of one
directory after the other, and once it comes to a package with `exports` it looks only at the places to which these lead.
It appends no extension there, it looks for no `index`, `main` or plain path, and it goes to no farther directory.  So no
other files matter than those that the search has met before, the manifest of the package and what it exports.

## Main definitions

* `Store.AgreesOn` — the stores with the same files at some paths.
* `Outlook.Reaches` — that a search for a package comes to one with `exports`.
* `Outlook.nearPlaces`, `Outlook.nearFiles` — where the search looks before, and the files on which that depends.

## Main results

* `Outlook.Reaches.places_eq` — where a search looks that comes to a package with `exports`.
* `Resolution.outcome_module_of_agreesOn` — what its answer depends on.
* `Resolution.module_exported` — its answer.
-/

namespace ModuleReach

/-! ### First places -/

namespace Resolution

variable {s s' : Store} {specifier : String} {referrer : Option Url} {paths : List String}

/-- The first place where there is a file is the answer. -/
theorem firstOf_of_first {before after : List String} {path : String}
    (hbefore : ∀ q ∈ before, s.has q = false) (hpath : s.has path = true) :
    firstOf s specifier referrer (before ++ path :: after) = .resolved (s.url path) := by
  have hnone : before.find? s.has = none := Store.find?_has_eq_none_iff.2 hbefore
  rw [firstOf, List.find?_append, hnone, Option.none_or, List.find?_cons_of_pos hpath]

/-- If there is no file at any place, the answer names them all. -/
theorem firstOf_of_absent (h : ∀ path ∈ paths, s.has path = false) :
    firstOf s specifier referrer paths =
      .unresolved ⟨specifier, referrer, paths.map fun path => (s.url path).href⟩ := by
  rw [firstOf, Store.find?_has_eq_none_iff.2 h]

/-- Stores with files at the same of some places give the same answer. -/
theorem firstOf_congr (hscheme : s'.scheme = s.scheme) (h : ∀ path ∈ paths, s'.has path = s.has path) :
    firstOf s' specifier referrer paths = firstOf s specifier referrer paths := by
  have hurl : s'.url = s.url := by
    funext path
    rw [Store.url, Store.url, hscheme]
  have hfind : paths.find? s'.has = paths.find? s.has := by
    induction paths with
    | nil => rfl
    | cons path rest ih =>
      rw [List.find?_cons, List.find?_cons, h path List.mem_cons_self,
        ih fun q hq => h q (List.mem_cons_of_mem _ hq)]
  rw [firstOf, firstOf, hfind, hurl]

end Resolution

/-! ### What an answer depends on -/

/-- Whether two stores have the same files at some paths, under the same URLs. -/
structure Store.AgreesOn (s s' : Store) (paths : List String) : Prop where
  scheme : s'.scheme = s.scheme
  content : ∀ path ∈ paths, s'.content? path = s.content? path

theorem Manifest.of?_congr {s s' : Store} {directory : String}
    (h : s'.content? (path directory) = s.content? (path directory)) : of? s' directory = of? s directory := by
  rw [of?, of?, h]

namespace Outlook

open Search (packageDirectory packageBases)

variable {o o' : Outlook}

/-- The `exports` of a package. -/
def exports? (o : Outlook) (package : String) : Option Json :=
  (o.manifest? package).bind (·.field? "exports")

theorem exports?_outlook (s : Store) (extensions : List String) (matrix : Conditions) (package : String) :
    (s.outlook extensions matrix).exports? package = (Manifest.of? s package).bind (·.field? "exports") := rfl

/-- The directory for which a path in a package without `exports` may stand. -/
def openDirectory (package subpath : String) : String :=
  if subpath = "." then package else Path.join package subpath

/-- The files on which a search for a path in a package without `exports` depends: the manifest of the package, that
of the directory for which the path may stand, and the places. -/
def openFiles (o : Outlook) (package subpath : String) : List String :=
  Manifest.path package :: Manifest.path (openDirectory package subpath) :: o.openPlaces package subpath

/-- Where a search looks for a path in a package without `exports` is settled by one manifest. -/
theorem openPlaces_congr {package subpath : String} (hextensions : o'.extensions = o.extensions)
    (hmanifest : o'.manifest? (openDirectory package subpath) = o.manifest? (openDirectory package subpath)) :
    o'.openPlaces package subpath = o.openPlaces package subpath := by
  unfold openDirectory at hmanifest
  unfold openPlaces
  by_cases hself : subpath = "."
  · rw [if_pos hself] at hmanifest
    simp only [if_pos hself, directoryPlaces, mainPlaces, filePlaces, indexPlaces, hextensions, hmanifest]
  · rw [if_neg hself] at hmanifest
    simp only [if_neg hself, pathPlaces, directoryPlaces, mainPlaces, filePlaces, indexPlaces, hextensions,
      hmanifest]

/-- That a search for a package, seen from a base directory, comes to one with `exports` below a directory, after packages
without `exports` below the nearer ones. -/
structure Reaches (o : Outlook) (ref : Specifier.PackageRef) (base : String) (nearer : List String)
    (directory : String) (exports : Json) : Prop where
  /-- The directories are those in which packages are looked for, in order. -/
  bases : ∃ farther, packageBases base = nearer ++ directory :: farther
  isOpen : ∀ d ∈ nearer, o.exports? (packageDirectory d ref.name) = none
  exports : o.exports? (packageDirectory directory ref.name) = some exports

/-- The places for a package below some directories, none of which has it with `exports`. -/
def nearPlaces (o : Outlook) (ref : Specifier.PackageRef) (nearer : List String) : List String :=
  nearer.flatMap fun d => o.openPlaces (packageDirectory d ref.name) ref.subpath

/-- The files on which a search for a package below these directories depends. -/
def nearFiles (o : Outlook) (ref : Specifier.PackageRef) (nearer : List String) : List String :=
  nearer.flatMap fun d => o.openFiles (packageDirectory d ref.name) ref.subpath

/-- A search that comes to a package with `exports` looks where the packages before it lead, and then where the `exports`
do. -/
theorem packagePlacesFrom_append {ref : Specifier.PackageRef} {nearer farther : List String} {directory : String}
    {exports : Json} (hopen : ∀ d ∈ nearer, o.exports? (packageDirectory d ref.name) = none)
    (hexports : o.exports? (packageDirectory directory ref.name) = some exports) :
    o.packagePlacesFrom ref (nearer ++ directory :: farther) =
      o.nearPlaces ref nearer ++ o.exportPlaces exports (packageDirectory directory ref.name) ref.subpath := by
  unfold exports? at hopen hexports
  -- The induction is on the directories before, which the search goes through one by one.
  induction nearer with
  | nil =>
    rw [List.nil_append, packagePlacesFrom, hexports]
    rfl
  | cons first rest ih =>
    have hfirst := hopen first List.mem_cons_self
    have hrest := ih fun d hd => hopen d (List.mem_cons_of_mem _ hd)
    rw [List.cons_append, packagePlacesFrom, hfirst, nearPlaces, List.flatMap_cons, List.append_assoc]
    dsimp only
    rw [hrest]
    rfl

namespace Reaches

variable {specifier base directory : String} {ref : Specifier.PackageRef} {nearer : List String} {exports : Json}

/-- The places at which a search looks that comes to a package with `exports`. -/
theorem places_eq (h : o.Reaches ref base nearer directory exports) (hpath : Specifier.isPath specifier = false)
    (hinternal : Specifier.isInternal specifier = false) (href : Specifier.package? specifier = some ref) :
    o.places specifier base =
      o.nearPlaces ref nearer ++ o.exportPlaces exports (packageDirectory directory ref.name) ref.subpath := by
  obtain ⟨farther, hbases⟩ := h.bases
  rw [places, hpath, hinternal, if_neg Bool.false_ne_true, if_neg Bool.false_ne_true, packagePlaces, href]
  dsimp only
  rw [hbases, packagePlacesFrom_append h.isOpen h.exports]

/-- Outlooks with the same manifests up to the package with `exports` come to it alike. -/
theorem congr (h : o.Reaches ref base nearer directory exports)
    (hnear : ∀ d ∈ nearer, o'.manifest? (packageDirectory d ref.name) = o.manifest? (packageDirectory d ref.name))
    (hpackage : o'.manifest? (packageDirectory directory ref.name) =
      o.manifest? (packageDirectory directory ref.name)) : o'.Reaches ref base nearer directory exports where
  bases := h.bases
  isOpen := by
    intro d hd
    rw [exports?, hnear d hd]
    exact h.isOpen d hd
  exports := by
    rw [exports?, hpackage]
    exact h.exports

end Reaches

end Outlook

/-- Where nothing is found in a package without `exports`, there are no files. -/
theorem Search.absent_of_openLookup {s : Search} (hs : s.store.Closed) {package subpath : String} {seen : List String}
    (h : (s.openLookup package subpath []).outcome = .ok (none, seen)) :
    ∀ path ∈ s.outlook.openPlaces package subpath, s.store.has path = false := by
  have hscan := (looksAt_openLookup hs package subpath).outcome_eq []
  rw [h, Except.ok.injEq] at hscan
  have hfind := Lookup.fst_scan s.store (s.outlook.openPlaces package subpath) []
  rw [← hscan] at hfind
  exact Store.find?_has_eq_none_iff.1 hfind.symm

/-! ### The answer -/

namespace Resolution

open Search (packageDirectory)

section Exported

variable {s : Store} {specifier directory : String} {ref : Specifier.PackageRef} {nearer : List String}
  {referrer : Option Url} {extensions : List String} {conditions : Conditions} {exports : Json}

/-- Stores that agree on what a search meets up to a package with `exports`, and on what the package exports, give it
the same answer. -/
theorem outcome_module_of_agreesOn {s' : Store} (hs : s.Closed) (hs' : s'.Closed)
    (hpath : Specifier.isPath specifier = false) (hinternal : Specifier.isInternal specifier = false)
    (href : Specifier.package? specifier = some ref)
    (h : (s.outlook extensions (conditionMatrix conditions)).Reaches ref (baseOf referrer) nearer directory exports)
    (hagrees : s.AgreesOn s' ((s.outlook extensions (conditionMatrix conditions)).nearFiles ref nearer ++
      Manifest.path (packageDirectory directory ref.name) ::
        (s.outlook extensions (conditionMatrix conditions)).exportPlaces exports
          (packageDirectory directory ref.name) ref.subpath)) :
    (module s' specifier referrer extensions conditions).outcome =
      (module s specifier referrer extensions conditions).outcome := by
  let o := s.outlook extensions (conditionMatrix conditions)
  let o' := s'.outlook extensions (conditionMatrix conditions)
  have hnear : ∀ d ∈ nearer, ∀ path ∈ o.openFiles (packageDirectory d ref.name) ref.subpath,
      s'.content? path = s.content? path := by
    intro d hd path hfile
    exact hagrees.content path (List.mem_append_left _ (List.mem_flatMap.2 ⟨d, hd, hfile⟩))
  have hmanifest : ∀ d ∈ nearer, o'.manifest? (packageDirectory d ref.name) =
      o.manifest? (packageDirectory d ref.name) := by
    intro d hd
    exact Manifest.of?_congr (hnear d hd _ List.mem_cons_self)
  have hplaces : ∀ d ∈ nearer, o'.openPlaces (packageDirectory d ref.name) ref.subpath =
      o.openPlaces (packageDirectory d ref.name) ref.subpath := by
    intro d hd
    have hstands := Manifest.of?_congr (hnear d hd _ (List.mem_cons_of_mem _ List.mem_cons_self))
    exact Outlook.openPlaces_congr rfl hstands
  have hpackage : o'.manifest? (packageDirectory directory ref.name) =
      o.manifest? (packageDirectory directory ref.name) :=
    Manifest.of?_congr (hagrees.content _ (List.mem_append_right _ List.mem_cons_self))
  -- So both searches look at the same places.
  have hsame : o'.places specifier (baseOf referrer) = o.places specifier (baseOf referrer) := by
    have hnearPlaces : o'.nearPlaces ref nearer = o.nearPlaces ref nearer := List.flatMap_congr hplaces
    rw [h.places_eq hpath hinternal href, (h.congr hmanifest hpackage).places_eq hpath hinternal href, hnearPlaces]
    rfl
  have hhas : ∀ path ∈ o.places specifier (baseOf referrer), s'.has path = s.has path := by
    intro path hmem
    rw [h.places_eq hpath hinternal href] at hmem
    rw [Store.has, Store.has]
    -- A place was looked at before the package with `exports`, or it is exported.
    rcases List.mem_append.1 hmem with hmem | hmem
    · obtain ⟨d, hd, hplace⟩ := List.mem_flatMap.1 hmem
      rw [hnear d hd path (List.mem_cons_of_mem _ (List.mem_cons_of_mem _ hplace))]
    · rw [hagrees.content path (List.mem_append_right _ (List.mem_cons_of_mem _ hmem))]
  rw [outcome_module hs, outcome_module hs']
  change Except.ok (firstOf s' specifier referrer (o'.places specifier (baseOf referrer))) = _
  rw [hsame, firstOf_congr hagrees.scheme hhas]

/-- **A package with `exports` gives out only what it exports.**  For a store in memory, let a search for a bare
specifier come to a package with `exports` and find nothing in the packages before.  Then the answer is the first file
among the places to which the `exports` lead, for one set of conditions after the other, and for each set in the
order of the targets.  If there is none, the answer names the places that were looked at before and these.

No other file matters: a store that agrees on the files which the search has met before, on the manifest of the package
and on these places gives the same answer. -/
theorem module_exported (m : MemoryStore) (referrer : Option Url) (extensions : List String) (conditions : Conditions)
    (hpath : Specifier.isPath specifier = false) (hinternal : Specifier.isInternal specifier = false)
    (href : Specifier.package? specifier = some ref)
    (hreaches : (m.toStore.outlook extensions (conditionMatrix conditions)).Reaches ref (baseOf referrer) nearer
      directory exports)
    (hmisses : ∀ d ∈ nearer, ∃ seen, (Search.openLookup ⟨m.toStore, extensions, conditionMatrix conditions⟩
      (packageDirectory d ref.name) ref.subpath []).outcome = .ok (none, seen)) :
    let package := packageDirectory directory ref.name
    let o := m.toStore.outlook extensions (conditionMatrix conditions)
    let exported := (conditionMatrix conditions).flatMap fun names =>
      (Manifest.exportTargets exports ref.subpath names).map fun target => Path.normalize (Path.join package target)
    let outcome := fun m : MemoryStore => (module m.toStore specifier referrer extensions conditions).outcome
    (∀ before path after, exported = before ++ path :: after → (∀ q ∈ before, m.toStore.has q = false) →
      m.toStore.has path = true → outcome m = .ok (.resolved (m.toStore.url path))) ∧
    ((∀ path ∈ exported, m.toStore.has path = false) →
      outcome m = .ok (.unresolved ⟨specifier, referrer,
        (o.nearPlaces ref nearer ++ exported).map fun path => (m.toStore.url path).href⟩)) ∧
    ∀ m' : MemoryStore,
      m.toStore.AgreesOn m'.toStore (o.nearFiles ref nearer ++ Manifest.path package :: exported) →
        outcome m' = outcome m := by
  intro package o exported outcome
  have hs : m.toStore.Closed := m.closed_toStore
  have houtcome : outcome m = .ok (firstOf m.toStore specifier referrer (o.nearPlaces ref nearer ++ exported)) := by
    have hmodule := outcome_module hs specifier referrer extensions conditions
    rw [hreaches.places_eq hpath hinternal href] at hmodule
    exact hmodule
  have habsent : ∀ path ∈ o.nearPlaces ref nearer, m.toStore.has path = false := by
    intro path hmem
    obtain ⟨d, hd, hplace⟩ := List.mem_flatMap.1 hmem
    obtain ⟨seen, hlookup⟩ := hmisses d hd
    exact Search.absent_of_openLookup hs hlookup path hplace
  refine ⟨?_, ?_, ?_⟩
  · intro before path after hexported hbefore hfile
    have hnone : ∀ q ∈ o.nearPlaces ref nearer ++ before, m.toStore.has q = false := by
      intro q hq
      rcases List.mem_append.1 hq with hq | hq
      · exact habsent q hq
      · exact hbefore q hq
    rw [houtcome, hexported, ← List.append_assoc, firstOf_of_first hnone hfile]
  · intro hnone
    rw [houtcome, firstOf_of_absent]
    intro path hmem
    rcases List.mem_append.1 hmem with hmem | hmem
    · exact habsent path hmem
    · exact hnone path hmem
  · intro m' hagrees
    exact outcome_module_of_agreesOn hs m'.closed_toStore hpath hinternal href hreaches hagrees

end Exported

/-! ### A package that exports its manifest -/

/-- The manifest of a package that exports nothing else. -/
def selfExport : Bytes := Utf8.encode "\x7b\"exports\":\"./package.json\"\x7d".toList

/-- A store with only this package. -/
def selfExporting : MemoryStore := (MemoryStore.empty "drive").put "/node_modules/pkg/package.json" selfExport

theorem exports?_selfExporting (extensions : List String) (matrix : Conditions) (package : String) :
    (selfExporting.toStore.outlook extensions matrix).exports? package =
      if Path.normalize "/node_modules/pkg/package.json" = Path.normalize (Manifest.path package) then
        some (.string "./package.json")
      else none := by
  have hparse : Manifest.parse? selfExport = some [("exports", .string "./package.json")] := by cbv
  rw [Outlook.exports?_outlook, Manifest.of?, selfExporting, MemoryStore.content?_put_empty]
  by_cases h : Path.normalize "/node_modules/pkg/package.json" = Path.normalize (Manifest.path package)
  · rw [if_pos h, if_pos h, Option.bind_some, hparse]
    rfl
  · rw [if_neg h, if_neg h]
    rfl

/-- From a directory without packages a search comes to the package in the root. -/
theorem module_exported_self :
    let search : Search := ⟨selfExporting.toStore, [".js"], conditionMatrix []⟩
    let referrer := selfExporting.toStore.url "/lib/index.js"
    search.outlook.Reaches ⟨"pkg", "."⟩ (baseOf (some referrer)) ["/lib"] "/" (.string "./package.json") ∧
      (∀ d ∈ ["/lib"], ∃ seen, (search.openLookup (packageDirectory d "pkg") "." []).outcome = .ok (none, seen)) ∧
      (module selfExporting.toStore "pkg" (some referrer) [".js"] []).outcome =
        .ok (.resolved (selfExporting.toStore.url "/node_modules/pkg/package.json")) := by
  intro search referrer
  have hreaches : search.outlook.Reaches ⟨"pkg", "."⟩ (baseOf (some referrer)) ["/lib"] "/"
      (.string "./package.json") := by
    refine ⟨⟨[], by decide +kernel⟩, ?_, ?_⟩
    · intro d hd
      rw [List.mem_singleton.1 hd]
      exact (exports?_selfExporting ..).trans (if_neg (by decide +kernel))
    · exact (exports?_selfExporting ..).trans (if_pos (by decide +kernel))
  have hmisses : ∀ d ∈ ["/lib"], ∃ seen,
      (search.openLookup (packageDirectory d "pkg") "." []).outcome = .ok (none, seen) := by
    intro d hd
    rw [List.mem_singleton.1 hd]
    exact ⟨["drive:///lib/node_modules/pkg/index.js"], by decide +kernel⟩
  have hbare : Specifier.package? "pkg" = some ⟨"pkg", "."⟩ := by decide +kernel
  have hfile : selfExporting.toStore.has "/node_modules/pkg/package.json" = true := MemoryStore.has_put _ _ _
  have hanswer := (module_exported selfExporting (some referrer) [".js"] [] (by decide +kernel) (by decide +kernel)
    hbare hreaches hmisses).1
  exact ⟨hreaches, hmisses, hanswer [] "/node_modules/pkg/package.json" [] (by decide +kernel) (by simp) hfile⟩

end Resolution

end ModuleReach
