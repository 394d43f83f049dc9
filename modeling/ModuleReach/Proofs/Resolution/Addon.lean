import Mathlib.Data.List.ProdSigma
import ModuleReach.Proofs.Path.Ancestors
import ModuleReach.Proofs.Resolution.Places
import ModuleReach.Proofs.Resolution.PrebuildName

/-!
# Which binary is an addon

The manifests alone settle which package a specifier names as an addon.  A path names the nearest package around the place to
which it leads; any other specifier the nearest one of its name that is installed; and one that begins with `#` what the
`imports` of the nearest package make of it.  The package and its manifest settle where its binaries are, and the answer is the
first of them for which there is a file, host by host and for each host extension by extension.

## Main definitions

* `Addon.Names` — the package that a specifier names, as a relation.
* `Addon.Holds` — the package that holds an addon, for specifiers that may begin with `#`.
* `Addon.Answers` — the answer that the binaries of a package lead to.

## Main results

* `Addon.names_iff`, `Addon.holds_iff` — there is just one such package, and the searches find it.
* `Resolution.addon_answers` — the answer for an addon, in all stores with the same manifests.
-/

namespace ModuleReach

/-- The manifest of a directory, among files with given contents. -/
def Manifest.among (manifests : String → Option Bytes) (directory : String) : Option Manifest :=
  (manifests (path directory)).bind parse?

/-! ### The nearest manifest -/

/-- What is found first in a list, with what it is found for, comes from the first element for which there is something. -/
theorem findSome?_pair_eq_some_iff {α β γ : Type} {f : α → Option β} {g : α → γ} {as : List α} {c : γ} {b : β} :
    (as.findSome? fun a => (f a).map (g a, ·)) = some (c, b) ↔
      ∃ a, (as.find? fun a => (f a).isSome) = some a ∧ c = g a ∧ f a = some b := by
  induction as with
  | nil => simp
  | cons a rest ih =>
    rw [List.findSome?_cons, List.find?_cons]
    cases h : f a with
    | none => simpa using ih
    | some b' => simp [h, eq_comm]

namespace Outlook

variable {o : Outlook}

/-- The manifest in whose scope a directory lies is the nearest one. -/
theorem scope?_eq_some_iff {path directory : String} {manifest : Manifest} :
    o.scope? path = some (directory, manifest) ↔
      Path.IsNearest (fun d => (o.manifest? d).isSome) path directory ∧ o.manifest? directory = some manifest := by
  rw [scope?, findSome?_pair_eq_some_iff]
  constructor
  · rintro ⟨d, hfind, rfl, hmanifest⟩
    exact ⟨Path.find?_ancestors_eq_some_iff.1 hfind, hmanifest⟩
  · rintro ⟨hnearest, hmanifest⟩
    exact ⟨directory, Path.find?_ancestors_eq_some_iff.2 hnearest, rfl, hmanifest⟩

theorem scope?_eq_none_iff {path : String} :
    o.scope? path = none ↔ ∀ directory, Path.Encloses directory path → o.manifest? directory = none := by
  simp only [scope?, List.findSome?_eq_none_iff, Path.mem_ancestors_iff, Option.map_eq_none_iff]

end Outlook

/-! ### The package of an addon -/

namespace Addon

/-- The specifier that is looked for: the empty one stands for `.`. -/
def asked (specifier : String) : String := if specifier = "" then "." else specifier

@[simp] theorem asked_empty : asked "" = "." := rfl

theorem asked_of_ne {specifier : String} (h : specifier ≠ "") : asked specifier = specifier := if_neg h

/-- Whether there is a package of a name in the `node_modules` of a directory, which is not itself called so. -/
def Provides (manifest? : String → Option Manifest) (name directory : String) : Prop :=
  Path.name directory ≠ "node_modules" ∧ (manifest? (Search.packageDirectory directory name)).isSome

/-- The package that a specifier names, seen from a directory, with its manifest if it has one. -/
inductive Names (manifest? : String → Option Manifest) (specifier base : String) :
    Option (String × Option Manifest) → Prop
  /-- A path names the nearest package around the place to which it leads. -/
  | enclosing {directory : String} {manifest : Manifest} (hpath : Specifier.isPath specifier = true)
      (hnearest : Path.IsNearest (fun d => (manifest? d).isSome) (Path.normalize (Path.join base specifier)) directory)
      (hmanifest : manifest? directory = some manifest) : Names manifest? specifier base (some (directory, some manifest))
  /-- If there is no package around it, the place counts as one. -/
  | target (hpath : Specifier.isPath specifier = true)
      (hnone : ∀ d, Path.Encloses d (Path.normalize (Path.join base specifier)) → manifest? d = none) :
      Names manifest? specifier base (some (Path.normalize (Path.join base specifier), none))
  /-- A name is that of the nearest package of this name that is installed. -/
  | installed {ref : Specifier.PackageRef} {directory : String} {manifest : Manifest}
      (hpath : Specifier.isPath specifier = false) (href : Specifier.package? specifier = some ref)
      (hnearest : Path.IsNearest (Provides manifest? ref.name) base directory)
      (hmanifest : manifest? (Search.packageDirectory directory ref.name) = some manifest) :
      Names manifest? specifier base (some (Search.packageDirectory directory ref.name, some manifest))
  /-- No package of the name is installed. -/
  | missing {ref : Specifier.PackageRef} (hpath : Specifier.isPath specifier = false)
      (href : Specifier.package? specifier = some ref)
      (hnone : ∀ d, Path.Encloses d base → ¬ Provides manifest? ref.name d) : Names manifest? specifier base none
  /-- The specifier is no name of a package. -/
  | unnamed (hpath : Specifier.isPath specifier = false) (href : Specifier.package? specifier = none) :
      Names manifest? specifier base none

/-- The package that holds the addon of a specifier, seen from a directory.  A specifier that begins with `#` stands for the
first target that the `imports` of the nearest package give, and this is read from that package. -/
inductive Holds (manifest? : String → Option Manifest) (matrix : Conditions) (specifier base : String) :
    Option (String × Option Manifest) → Prop
  | own {found : Option (String × Option Manifest)} (hinternal : Specifier.isInternal specifier = false)
      (hnames : Names manifest? specifier base found) : Holds manifest? matrix specifier base found
  | remapped {found : Option (String × Option Manifest)} {directory target : String} {manifest : Manifest}
      {imports : List (String × Json)} (hinternal : Specifier.isInternal specifier = true)
      (hnearest : Path.IsNearest (fun d => (manifest? d).isSome) base directory)
      (hmanifest : manifest? directory = some manifest) (himports : manifest.imports? = some imports)
      (htarget : firstImport? imports specifier matrix = some target)
      (hnames : Names manifest? target directory found) : Holds manifest? matrix specifier base found
  /-- The nearest package has no `imports`, or they give nothing for the specifier. -/
  | unmapped {directory : String} {manifest : Manifest} (hinternal : Specifier.isInternal specifier = true)
      (hnearest : Path.IsNearest (fun d => (manifest? d).isSome) base directory)
      (hmanifest : manifest? directory = some manifest)
      (hnone : ∀ imports, manifest.imports? = some imports → firstImport? imports specifier matrix = none) :
      Holds manifest? matrix specifier base none
  /-- There is no package around the directory. -/
  | unscoped (hinternal : Specifier.isInternal specifier = true)
      (hnone : ∀ d, Path.Encloses d base → manifest? d = none) : Holds manifest? matrix specifier base none

end Addon

namespace Outlook

open Addon (Provides)

variable (o : Outlook)

/-- The nearest package of a name that is installed. -/
def installed? (name base : String) : Option (String × Manifest) :=
  ((Search.packageBases base).map (Search.packageDirectory · name)).findSome? fun package =>
    (o.manifest? package).map (package, ·)

/-- The package that holds the addon of a specifier. -/
def holder? (specifier base : String) : Option (String × Option Manifest) :=
  if Specifier.isInternal specifier then (o.remap? specifier base).bind fun p => o.package? p.1 p.2
  else o.package? specifier base

variable {o}

/-- The directory that is found first is the nearest one that provides a package. -/
theorem isNearest_provides_iff {name base directory : String} :
    Path.IsNearest (Provides o.manifest? name) base directory ↔
      ((Search.packageBases base).find? fun d => (o.manifest? (Search.packageDirectory d name)).isSome) =
        some directory := by
  have hprovides : Provides o.manifest? name = fun d => decide (decide (Path.name d ≠ "node_modules") = true ∧
      (o.manifest? (Search.packageDirectory d name)).isSome = true) = true := by
    funext d
    simp [Provides]
  rw [Search.packageBases, List.find?_filter, Path.find?_ancestors_eq_some_iff, hprovides]

theorem installed?_eq_some_iff {name base package : String} {manifest : Manifest} :
    o.installed? name base = some (package, manifest) ↔ ∃ directory,
      Path.IsNearest (Provides o.manifest? name) base directory ∧
        package = Search.packageDirectory directory name ∧ o.manifest? package = some manifest := by
  rw [installed?, List.findSome?_map]
  simp only [Function.comp_def, findSome?_pair_eq_some_iff, isNearest_provides_iff]
  refine exists_congr fun directory => and_congr_right fun _ => and_congr_right ?_
  rintro rfl
  rfl

theorem installed?_eq_none_iff {name base : String} :
    o.installed? name base = none ↔ ∀ d, Path.Encloses d base → ¬ Provides o.manifest? name d := by
  rw [installed?, List.findSome?_map, List.findSome?_eq_none_iff]
  simp [Search.packageBases, Path.mem_ancestors_iff, Provides]

/-- A path names the package in whose scope it lies, or itself. -/
theorem package?_of_isPath {specifier : String} (h : Specifier.isPath specifier = true) (base : String) :
    o.package? specifier base = some ((o.scope? (Path.normalize (Path.join base specifier))).elim
      (Path.normalize (Path.join base specifier), none) fun scope => (scope.1, some scope.2)) := by
  rw [package?, if_pos h]
  dsimp only
  cases o.scope? (Path.normalize (Path.join base specifier)) <;> rfl

/-- Any other specifier names a package that is installed. -/
theorem package?_of_not_isPath {specifier : String} (h : Specifier.isPath specifier = false) (base : String) :
    o.package? specifier base = (Specifier.package? specifier).bind fun ref =>
      (o.installed? ref.name base).map fun found => (found.1, some found.2) := by
  rw [package?, if_neg (by simp [h])]
  rfl

/-- An addon is looked for at the places of the binaries of the package that holds it. -/
theorem addonPlaces_eq (o : Outlook) (specifier base : String) (hosts : List String) :
    o.addonPlaces specifier base hosts = (o.holder? specifier base).elim [] fun found =>
      o.binaryPlaces found.1 (Manifest.prebuildName found.1 found.2) hosts := by
  have hown : ∀ specifier base, o.ownPlaces specifier base hosts = (o.package? specifier base).elim [] fun found =>
      o.binaryPlaces found.1 (Manifest.prebuildName found.1 found.2) hosts := by
    intro specifier base
    unfold ownPlaces
    cases o.package? specifier base <;> rfl
  unfold addonPlaces holder?
  cases Specifier.isInternal specifier with
  | false => exact hown specifier base
  | true =>
    cases o.remap? specifier base with
    | none => rfl
    | some p => exact hown p.1 p.2

end Outlook

namespace Addon

variable {o : Outlook}

/-- There is one package that a specifier names, and the search finds it. -/
theorem names_iff {specifier base : String} {found : Option (String × Option Manifest)} :
    Names o.manifest? specifier base found ↔ o.package? specifier base = found := by
  constructor
  · intro h
    cases h with
    | enclosing hpath hnearest hmanifest =>
      rw [Outlook.package?_of_isPath hpath, Outlook.scope?_eq_some_iff.2 ⟨hnearest, hmanifest⟩, Option.elim_some]
    | target hpath hnone =>
      rw [Outlook.package?_of_isPath hpath, Outlook.scope?_eq_none_iff.2 hnone, Option.elim_none]
    | installed hpath href hnearest hmanifest =>
      have hinstalled := Outlook.installed?_eq_some_iff.2 ⟨_, hnearest, rfl, hmanifest⟩
      rw [Outlook.package?_of_not_isPath hpath, href, Option.bind_some, hinstalled, Option.map_some]
    | missing hpath href hnone =>
      rw [Outlook.package?_of_not_isPath hpath, href, Option.bind_some, Outlook.installed?_eq_none_iff.2 hnone,
        Option.map_none]
    | unnamed hpath href => rw [Outlook.package?_of_not_isPath hpath, href, Option.bind_none]
  · rintro rfl
    cases hpath : Specifier.isPath specifier with
    | true =>
      rw [Outlook.package?_of_isPath hpath]
      cases hscope : o.scope? (Path.normalize (Path.join base specifier)) with
      | none => exact .target hpath (Outlook.scope?_eq_none_iff.1 hscope)
      | some found =>
        obtain ⟨hnearest, hmanifest⟩ := Outlook.scope?_eq_some_iff.1 hscope
        exact .enclosing hpath hnearest hmanifest
    | false =>
      rw [Outlook.package?_of_not_isPath hpath]
      cases href : Specifier.package? specifier with
      | none => exact .unnamed hpath href
      | some ref =>
        rw [Option.bind_some]
        cases hinstalled : o.installed? ref.name base with
        | none => exact .missing hpath href (Outlook.installed?_eq_none_iff.1 hinstalled)
        | some found =>
          obtain ⟨package, manifest⟩ := found
          obtain ⟨directory, hnearest, rfl, hmanifest⟩ := Outlook.installed?_eq_some_iff.1 hinstalled
          exact .installed hpath href hnearest hmanifest

/-- There is one package that holds an addon, and the search finds it. -/
theorem holds_iff {specifier base : String} {found : Option (String × Option Manifest)} :
    Holds o.manifest? o.matrix specifier base found ↔ o.holder? specifier base = found := by
  unfold Outlook.holder? Outlook.remap?
  constructor
  · intro h
    cases h with
    | own hinternal hnames => rw [if_neg (by simp [hinternal]), names_iff.1 hnames]
    | remapped hinternal hnearest hmanifest himports htarget hnames =>
      rw [if_pos hinternal, Outlook.scope?_eq_some_iff.2 ⟨hnearest, hmanifest⟩]
      simp only [Option.bind_some, himports, htarget, Option.map_some]
      exact names_iff.1 hnames
    | @unmapped _ manifest hinternal hnearest hmanifest hnone =>
      have himports : (manifest.imports?.bind (firstImport? · specifier o.matrix)) = none :=
        Option.bind_eq_none_iff.2 hnone
      rw [if_pos hinternal, Outlook.scope?_eq_some_iff.2 ⟨hnearest, hmanifest⟩]
      simp only [Option.bind_some, himports, Option.map_none, Option.bind_none]
    | unscoped hinternal hnone => rw [if_pos hinternal, Outlook.scope?_eq_none_iff.2 hnone, Option.bind_none, Option.bind_none]
  · rintro rfl
    cases hinternal : Specifier.isInternal specifier with
    | false => exact .own hinternal (names_iff.2 rfl)
    | true =>
      rw [if_pos rfl]
      cases hscope : o.scope? base with
      | none => exact .unscoped hinternal (Outlook.scope?_eq_none_iff.1 hscope)
      | some scope =>
        obtain ⟨directory, manifest⟩ := scope
        obtain ⟨hnearest, hmanifest⟩ := Outlook.scope?_eq_some_iff.1 hscope
        rw [Option.bind_some]
        cases himport : manifest.imports?.bind (firstImport? · specifier o.matrix) with
        | none => exact .unmapped hinternal hnearest hmanifest (Option.bind_eq_none_iff.1 himport)
        | some target =>
          obtain ⟨imports, himports, htarget⟩ := Option.bind_eq_some_iff.1 himport
          rw [Option.map_some, Option.bind_some]
          exact .remapped hinternal hnearest hmanifest himports htarget (names_iff.2 rfl)

theorem holds_of?_iff {s : Store} {extensions : List String} {matrix : Conditions} {specifier base : String}
    {found : Option (String × Option Manifest)} : Holds (Manifest.of? s) matrix specifier base found ↔
      (s.outlook extensions matrix).holder? specifier base = found :=
  holds_iff (o := s.outlook extensions matrix)

/-! ### The binaries of a package -/

/-- The place of a package's binary for a host, in canonical form. -/
def place (package : String) (manifest : Option Manifest) (host extension : String) : String :=
  Path.normalize (binaryPath package (Manifest.prebuildName package manifest) host extension)

/-- The answer that the binaries of a package lead to, host by host and for each host extension by extension. -/
inductive Answers (s : Store) (specifier : String) (referrer : Option Url) (hosts extensions : List String) :
    Option (String × Option Manifest) → Resolution → Prop
  | missing : Answers s specifier referrer hosts extensions none (.unresolved ⟨specifier, referrer, []⟩)
  /-- The first host with an extension for which there is a file, in the lexicographic order of their positions. -/
  | first {package : String} {manifest : Option Manifest} {i j : ℕ} {host extension : String}
      (hhost : hosts[i]? = some host) (hextension : extensions[j]? = some extension)
      (hhas : s.has (place package manifest host extension) = true)
      (hearlier : ∀ i' j' host' extension', hosts[i']? = some host' → extensions[j']? = some extension' →
        i' < i ∨ i' = i ∧ j' < j → s.has (place package manifest host' extension') = false) :
      Answers s specifier referrer hosts extensions (some (package, manifest))
        (.resolved (s.url (place package manifest host extension)))
  | absent {package : String} {manifest : Option Manifest}
      (hnone : ∀ host ∈ hosts, ∀ extension ∈ extensions, s.has (place package manifest host extension) = false) :
      Answers s specifier referrer hosts extensions (some (package, manifest))
        (.unresolved ⟨specifier, referrer,
          (hosts.product extensions).map fun p => (s.url (place package manifest p.1 p.2)).href⟩)

/-- What is found first row by row comes first in the lexicographic order of the positions. -/
theorem exists_first_of_find? {α β γ : Type} {f : α → β → γ} {p : γ → Bool} {as : List α} {bs : List β} {c : γ}
    (h : (as.flatMap fun a => bs.map (f a)).find? p = some c) :
    ∃ (i j : ℕ) (a : α) (b : β), as[i]? = some a ∧ bs[j]? = some b ∧ p (f a b) = true ∧ c = f a b ∧
      ∀ (i' j' : ℕ) (a' : α) (b' : β), as[i']? = some a' → bs[j']? = some b' → i' < i ∨ i' = i ∧ j' < j →
        p (f a' b') = false := by
  rw [List.find?_flatMap, List.findSome?_eq_some_iff] at h
  obtain ⟨above, a, below, rfl, ha, habove⟩ := h
  rw [List.find?_map, Option.map_eq_some_iff] at ha
  obtain ⟨b, hb, rfl⟩ := ha
  obtain ⟨hp, before, after, rfl, hbefore⟩ := List.find?_eq_some_iff_append.1 hb
  refine ⟨above.length, before.length, a, b, by simp, by simp, hp, rfl, ?_⟩
  rintro i' j' a' b' ha' hb' (hlt | ⟨rfl, hlt⟩)
  · rw [List.getElem?_append_left hlt] at ha'
    have hrow := habove a' (List.mem_of_getElem? ha')
    simpa using List.find?_eq_none.1 hrow _ (List.mem_map_of_mem (List.mem_of_getElem? hb'))
  · rw [List.getElem?_append_left hlt] at hb'
    have hsame : a' = a := by simpa using ha'.symm
    rw [hsame]
    simpa using hbefore b' (List.mem_of_getElem? hb')

/-- The place of a binary in full, for a host that is no absolute path. -/
theorem place_eq (package : String) (manifest : Option Manifest) {host : String} (hhost : host.toList.head? ≠ some '/')
    (extension : String) : place package manifest host extension =
      Path.normalize (package ++ "/prebuilds/" ++ host ++ "/" ++ Manifest.prebuildName package manifest ++ extension) := by
  have hassoc : package ++ "/" ++ "prebuilds" ++ "/" ++ host ++ "/" ++
      (Manifest.prebuildName package manifest ++ extension) =
        package ++ "/prebuilds/" ++ host ++ "/" ++ Manifest.prebuildName package manifest ++ extension := by
    simp [← String.toList_inj]
  have hrelative : "prebuilds".toList.head? ≠ some '/' := by decide
  have hprebuilds : Path.normalize (Path.join package "prebuilds") = Path.normalize (package ++ "/" ++ "prebuilds") :=
    Path.normalize_join package hrelative
  have hdirectory : Path.normalize (Path.join (Path.join package "prebuilds") host) =
      Path.normalize (package ++ "/" ++ "prebuilds" ++ "/" ++ host) := by
    rw [Path.normalize_join _ hhost]
    exact Path.normalize_append_slash_congr hprebuilds host
  calc place package manifest host extension
      = Path.normalize (Path.join (Path.join package "prebuilds") host ++ "/" ++
          (Manifest.prebuildName package manifest ++ extension)) :=
        Path.normalize_join _ (Manifest.head?_prebuildName_append package manifest extension)
    _ = Path.normalize (package ++ "/" ++ "prebuilds" ++ "/" ++ host ++ "/" ++
          (Manifest.prebuildName package manifest ++ extension)) :=
        Path.normalize_append_slash_congr hdirectory _
    _ = Path.normalize (package ++ "/prebuilds/" ++ host ++ "/" ++ Manifest.prebuildName package manifest ++
          extension) := by rw [hassoc]

/-- The first file among the places of a package's binaries is the answer that they lead to. -/
theorem answers_firstOf (o : Outlook) (s : Store) (specifier : String) (referrer : Option Url) (hosts : List String)
    (package : String) (manifest : Option Manifest) :
    Answers s specifier referrer hosts o.extensions (some (package, manifest)) (Resolution.firstOf s specifier referrer
      (o.binaryPlaces package (Manifest.prebuildName package manifest) hosts)) := by
  unfold Resolution.firstOf
  cases hfind : (o.binaryPlaces package (Manifest.prebuildName package manifest) hosts).find? s.has with
  | some path =>
    obtain ⟨i, j, host, extension, hhost, hextension, hhas, rfl, hearlier⟩ := exists_first_of_find? hfind
    exact .first hhost hextension hhas hearlier
  | none =>
    have hcandidates : ((o.binaryPlaces package (Manifest.prebuildName package manifest) hosts).map fun path =>
        (s.url path).href) =
        (hosts.product o.extensions).map fun p => (s.url (place package manifest p.1 p.2)).href := by
      simp only [Outlook.binaryPlaces, List.product, List.map_flatMap, List.map_map, Function.comp_def, place]
    dsimp only
    rw [hcandidates]
    refine .absent fun host hhost extension hextension => ?_
    refine Store.find?_has_eq_none_iff.1 hfind _ ?_
    exact List.mem_flatMap.2 ⟨host, hhost, List.mem_map_of_mem hextension⟩

/-- The answer for an addon is what the binaries of the package that holds it lead to. -/
theorem answers_addonPlaces (o : Outlook) (s : Store) (specifier : String) (referrer : Option Url) (base : String)
    (hosts : List String) :
    Answers s specifier referrer hosts o.extensions (o.holder? specifier base)
      (Resolution.firstOf s specifier referrer (o.addonPlaces specifier base hosts)) := by
  rw [Outlook.addonPlaces_eq]
  cases o.holder? specifier base with
  | none => exact .missing
  | some found => exact answers_firstOf o s specifier referrer hosts found.1 found.2

end Addon

namespace Resolution

/-- The answer for an addon whose specifier may be empty. -/
theorem outcome_addon_asked {s : Store} (hs : s.Closed) (specifier : String) (referrer : Option Url)
    (extensions : List String) (conditions : Conditions) (hosts : List String) :
    (addon s specifier referrer extensions conditions hosts false).outcome =
      .ok (firstOf s (Addon.asked specifier) referrer
        ((s.outlook extensions (conditionMatrix conditions)).addonPlaces (Addon.asked specifier) (baseOf referrer)
          hosts)) := by
  by_cases h : specifier = ""
  · have hdot : addon s "" referrer extensions conditions hosts false =
        addon s "." referrer extensions conditions hosts false := rfl
    rw [h, Addon.asked_empty, hdot]
    exact outcome_addon hs (by decide) referrer extensions conditions hosts
  · rw [Addon.asked_of_ne h]
    exact outcome_addon hs h referrer extensions conditions hosts

/-- **The manifests settle the package of an addon, and the package the places of its binaries.**  For every specifier and
all manifests there is just one package that holds the addon, if there is any.  In each store in memory with these
manifests the answer is the first of its binaries for which there is a file; if there is none, or no package, the answer
tells the specifier that was asked for, with the places of all binaries.  Such a place is
`prebuilds/<host>/<name><extension>`, joined to the package's directory; a host that is an absolute path would stand for
itself. -/
theorem addon_answers (specifier : String) (referrer : Option Url) (conditions : Conditions)
    (manifests : String → Option Bytes) :
    (∃ found, (∀ other, Addon.Holds (Manifest.among manifests) (conditionMatrix conditions) (Addon.asked specifier)
        (baseOf referrer) other ↔ other = found) ∧
      ∀ m : MemoryStore, m.HasManifests manifests → ∀ hosts extensions, ∃ answer,
        (addon m.toStore specifier referrer extensions conditions hosts false).outcome = .ok answer ∧
          Addon.Answers m.toStore (Addon.asked specifier) referrer hosts extensions found answer) ∧
    ∀ package manifest host extension, host.toList.head? ≠ some '/' → Addon.place package manifest host extension =
      Path.normalize (package ++ "/prebuilds/" ++ host ++ "/" ++ Manifest.prebuildName package manifest ++ extension) := by
  refine ⟨?_, fun package manifest host extension hhost => Addon.place_eq package manifest hhost extension⟩
  let asked := Addon.asked specifier
  let outlook (extensions : List String) : Outlook :=
    ⟨Manifest.among manifests, extensions, conditionMatrix conditions⟩
  refine ⟨(outlook []).holder? asked (baseOf referrer), ?_, ?_⟩
  · intro other
    exact (Addon.holds_iff (o := outlook [])).trans eq_comm
  · intro m hm hosts extensions
    have houtlook : m.toStore.outlook extensions (conditionMatrix conditions) = outlook extensions := by
      rw [Store.outlook, hm.of?_eq]
      rfl
    -- The extensions have no part in which package it is.
    have hholder : (outlook []).holder? asked (baseOf referrer) = (outlook extensions).holder? asked (baseOf referrer) :=
      (Addon.holds_iff (o := outlook [])).1 ((Addon.holds_iff (o := outlook extensions)).2 rfl)
    rw [hholder]
    refine ⟨_, ?_, Addon.answers_addonPlaces (outlook extensions) m.toStore asked referrer (baseOf referrer) hosts⟩
    rw [outcome_addon_asked m.closed_toStore, houtlook]

end Resolution

end ModuleReach
