import ModuleReach.Proofs.Resolution.Closed
import ModuleReach.Proofs.Store.Filled

/-!
# Assets and exact paths

An asset is looked for without extensions, so that only the file at its very path should do.  The search for a path goes on to
the directory at the path, though, and `index` has no extensions there either, but the `main` of a manifest needs none: it
names another file.  So an asset is found, or not, at its very path alone just if there is a file there or no
manifest below the path has a `main`.

## Main definitions

* `Resolution.exact` — the answer of a search that looks at one place only.
* `Manifest.mainOf?` — the `main` of the manifest in a directory.

## Main results

* `Resolution.firstOf_cons_eq_exact_iff` — when looking at more places makes no difference.
* `Resolver.standard_asset` — the answer for an asset at a path, and when it is the exact one.
* `Resolver.standard_asset_main` — the `main` of a manifest stands in for an asset.
-/

namespace ModuleReach

namespace Resolution

variable {s : Store} {specifier path : String} {referrer : Option Url}

/-- The answer of a search that looks at one place only. -/
def exact (s : Store) (specifier : String) (referrer : Option Url) (path : String) : Resolution :=
  if s.has path then .resolved (s.url path) else .unresolved ⟨specifier, referrer, [(s.url path).href]⟩

theorem firstOf_cons_of_has (h : s.has path = true) (more : List String) :
    firstOf s specifier referrer (path :: more) = .resolved (s.url path) := by
  rw [firstOf, List.find?_cons, h]

theorem firstOf_singleton (s : Store) (specifier : String) (referrer : Option Url) (path : String) :
    firstOf s specifier referrer [path] = exact s specifier referrer path := by
  unfold exact
  cases h : s.has path with
  | true => exact firstOf_cons_of_has h []
  | false =>
    have hnone : [path].find? s.has = none := Store.find?_has_eq_none_iff.2 (by simp [h])
    rw [firstOf, hnone]
    rfl

/-- Looking at more places makes no difference just if there is a file at the first, or there are no more. -/
theorem firstOf_cons_eq_exact_iff {more : List String} :
    firstOf s specifier referrer (path :: more) = exact s specifier referrer path ↔ s.has path = true ∨ more = [] := by
  constructor
  · intro h
    by_cases hpath : s.has path = true
    · exact .inl hpath
    · -- Neither is there an answer then, and all places are told, but only the first may be.
      rw [Resolution.exact, if_neg hpath] at h
      unfold firstOf at h
      split at h
      · cases h
      · have hcandidates := (Unresolved.mk.inj (Resolution.unresolved.inj h)).2.2
        rw [List.map_cons, List.cons.injEq, List.map_eq_nil_iff] at hcandidates
        exact .inr hcandidates.2
  · rintro (hpath | rfl)
    · rw [firstOf_cons_of_has hpath, exact, if_pos hpath]
    · exact firstOf_singleton s specifier referrer path

end Resolution

/-- The `main` of the manifest in a directory, if it is a text and not empty. -/
def Manifest.mainOf? (s : Store) (directory : String) : Option String := (of? s directory).bind (·.text? "main")

/-- Only the canonical path of a directory counts for its manifest. -/
theorem Manifest.of?_normalize (s : Store) (directory : String) : of? s (Path.normalize directory) = of? s directory := by
  rw [of?, of?, path, path, Path.normalize_join_congr (Path.normalize_normalize directory) "package.json"]

namespace Outlook

/-- Without extensions the places for a path are the path itself and what a `main` there names. -/
theorem pathPlaces_of_extensions_eq_nil {o : Outlook} (h : o.extensions = []) (path : String) :
    o.pathPlaces path = Path.normalize path :: (((o.manifest? path).bind (·.text? "main")).map fun main =>
      Path.normalize (Path.join path main)).toList := by
  unfold pathPlaces directoryPlaces mainPlaces filePlaces indexPlaces
  rw [h]
  cases (o.manifest? path).bind (·.text? "main") <;> simp

end Outlook

/-- An asset is no addon, and it is looked for without extensions. -/
theorem Entry.kind_of_isAsset {e : Entry} (haddon : e.isAddon = false) (hasset : e.isAsset = true) : e.kind = .asset := by
  rw [kind, haddon, hasset, if_neg (by simp), if_pos rfl]

namespace Plan

/-- An asset at a path is looked for at the path, and where a `main` there leads. -/
theorem places_asset {e : Entry} (haddon : e.isAddon = false) (hasset : e.isAsset = true)
    (hpath : Specifier.isPath e.specifier = true) (s : Store) (referrer : Option Url) (targets : List String)
    (conditions : Conditions) :
    let path := Path.normalize (Path.join (Resolution.baseOf referrer) e.specifier)
    (under e conditions).places (Manifest.of? s) referrer targets =
      path :: ((Manifest.mainOf? s path).map fun main => Path.normalize (Path.join path main)).toList := by
  intro path
  have hkind : e.kind = .asset := Entry.kind_of_isAsset haddon hasset
  have hplan : (under e conditions).isAddon = false := by
    rw [isAddon, under, hkind]
    rfl
  have hspecifier : (under e conditions).specifier = e.specifier := if_neg (by simp [haddon])
  have hextensions : (under e conditions).extensions = none := by
    rw [under, hkind]
    rfl
  have hmain : ∀ main, Path.normalize (Path.join path main) =
      Path.normalize (Path.join (Path.join (Resolution.baseOf referrer) e.specifier) main) :=
    Path.normalize_join_congr (Path.normalize_normalize _)
  rw [places, if_neg (by simp [hplan]), hspecifier, hextensions, Outlook.places, if_pos hpath,
    Outlook.pathPlaces_of_extensions_eq_nil rfl, Manifest.mainOf?, Manifest.of?_normalize]
  simp only [hmain]
  rfl

end Plan

namespace Resolver

/-- **Assets and their very paths.**  Let an asset be asked for by a path.  If the targets can be read, it is looked for at
the path and, after that, where the `main` of a manifest below the path leads; so the answer is that of looking at the path
alone just if there is a file at the path, or no such `main`.  Otherwise there is no answer. -/
theorem standard_asset (m : MemoryStore) {e : Entry} (haddon : e.isAddon = false) (hasset : e.isAsset = true)
    (hpath : Specifier.isPath e.specifier = true) (referrer : Option Url) (targets : List String) :
    let s := m.toStore
    let path := Path.normalize (Path.join (Resolution.baseOf referrer) e.specifier)
    let main? := Manifest.mainOf? s path
    (∀ conditions, buildConditions targets = .ok conditions →
      (standard s e referrer targets).outcome = .ok (Resolution.firstOf s e.specifier referrer
        (path :: (main?.map fun main => Path.normalize (Path.join path main)).toList)) ∧
      ((standard s e referrer targets).outcome = .ok (Resolution.exact s e.specifier referrer path) ↔
        s.has path = true ∨ main? = none)) ∧
    ∀ cause, buildConditions targets = .error cause →
      (standard s e referrer targets).outcome = .error (.config cause) := by
  intro s path main?
  refine ⟨?_, fun cause hcause => outcome_standard_of_malformed s e referrer hcause⟩
  intro conditions hconditions
  have hspecifier : Plan.specifierOf e = e.specifier := if_neg (by simp [haddon])
  have houtcome := outcome_standard m.closed_toStore e referrer hconditions
  rw [hspecifier, Plan.places_asset haddon hasset hpath] at houtcome
  refine ⟨houtcome, ?_⟩
  rw [houtcome, Except.ok.injEq, Resolution.firstOf_cons_eq_exact_iff, Option.toList_eq_nil_iff, Option.map_eq_none_iff]

/-- A directory with a manifest whose `main` names the one file in it. -/
def standing : MemoryStore := .ofFiles "drive"
  [("/dir/package.json", Utf8.encode "\x7b\"main\":\"real.js\"\x7d".toList), ("/dir/real.js", [])]

/-- The file is found at its very path. -/
theorem standard_asset_file :
    let e : Entry := ⟨"./dir/real.js", false, true, true, false⟩
    let referrer := some (standing.toStore.url "/index.js")
    (e.isAddon = false ∧ e.isAsset = true ∧ Specifier.isPath e.specifier = true) ∧
      (standard standing.toStore e referrer ["linux-x64"]).outcome =
        .ok (Resolution.exact standing.toStore e.specifier referrer
          (Path.normalize (Path.join (Resolution.baseOf referrer) e.specifier))) := by
  intro e referrer
  have hpath : Specifier.isPath e.specifier = true := by decide +kernel
  have hconditions : buildConditions ["linux-x64"] = .ok (Target.conditions ⟨"linux", "x64"⟩) := by cbv
  have hfile : standing.toStore.has (Path.normalize (Path.join (Resolution.baseOf referrer) e.specifier)) = true := by
    decide +kernel
  have hasset := (standard_asset standing (e := e) rfl rfl hpath referrer ["linux-x64"]).1 _ hconditions
  exact ⟨⟨rfl, rfl, hpath⟩, hasset.2.2 (.inl hfile)⟩

/-- **The `main` of a manifest stands in for an asset.**  Where there is no file at the path, what the manifest below it
names is the answer. -/
theorem standard_asset_main :
    let e : Entry := ⟨"./dir", false, true, true, false⟩
    let referrer := some (standing.toStore.url "/index.js")
    (standard standing.toStore e referrer ["linux-x64"]).outcome =
        .ok (.resolved (standing.toStore.url "/dir/real.js")) ∧
      (standing.toStore.url "/dir/real.js").pathname ≠
        Path.normalize (Path.join (Resolution.baseOf referrer) e.specifier) := by
  intro e referrer
  have hconditions : buildConditions ["linux-x64"] = .ok (Target.conditions ⟨"linux", "x64"⟩) := by cbv
  refine ⟨?_, by decide +kernel⟩
  rw [outcome_standard standing.closed_toStore _ _ hconditions, Except.ok.injEq]
  decide +kernel

end Resolver

end ModuleReach
