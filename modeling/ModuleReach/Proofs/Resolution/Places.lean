import ModuleReach.Proofs.Resolution.Outlook
import ModuleReach.Proofs.Store.Filled

/-!
# Where a search looks

In stores with the same files called `package.json` a search for a module looks at the same places in the same order,
whatever other files there are, and the answer is the first of them where there is a file.

## Main definitions

* `MemoryStore.HasManifests` — a store with given contents under the name `package.json`.

## Main results

* `Resolution.exists_places` — the answers in all stores with the same manifests come from one list of places.
-/

namespace ModuleReach

/-- A store whose files called `package.json` have the given contents. -/
def MemoryStore.HasManifests (m : MemoryStore) (manifests : String → Option Bytes) : Prop :=
  ∀ path, Path.normalize path = path → Path.name path = "package.json" →
    m.toStore.content? path = manifests path

namespace MemoryStore

variable {m : MemoryStore} {manifests : String → Option Bytes}

theorem HasManifests.of?_eq (h : m.HasManifests manifests) :
    Manifest.of? m.toStore = fun directory =>
      (manifests (Manifest.path directory)).bind Manifest.parse? := by
  funext directory
  have hcontent : m.toStore.content? (Manifest.path directory) = manifests (Manifest.path directory) :=
    h _ (Path.normalize_normalize _) (Manifest.name_path directory)
  rw [Manifest.of?, hcontent]

/-- Writing a file that is no manifest leaves the manifests as they are. -/
theorem HasManifests.put (h : m.HasManifests manifests) (hintact : m.Intact) {path : String}
    (hpath : Path.normalize path = path) (hname : Path.name path ≠ "package.json") (content : Bytes) :
    (m.put path content).HasManifests manifests := by
  intro q hq hqname
  have hne : Path.normalize q ≠ Path.normalize path := by
    rw [hq, hpath]
    rintro rfl
    exact hname hqname
  rw [content?_put_of_ne hintact content hne]
  exact h q hq hqname

/-- Where no place has a file, one that is written at a place is the answer. -/
theorem firstOf_put (hintact : m.Intact) {places : List String}
    (hcanonical : ∀ path ∈ places, Path.normalize path = path)
    (habsent : ∀ path ∈ places, m.toStore.has path = false) {path : String} (hpath : path ∈ places)
    (content : Bytes) (specifier : String) (referrer : Option Url) :
    Resolution.firstOf (m.put path content).toStore specifier referrer places =
      .resolved ((m.put path content).toStore.url path) := by
  have hother : ∀ q ∈ places, q ≠ path → (m.put path content).toStore.has q = false := by
    intro q hq hne
    have hne' : Path.normalize q ≠ Path.normalize path := by
      rw [hcanonical q hq, hcanonical path hpath]
      exact hne
    rw [Store.has, content?_put_of_ne hintact content hne']
    exact habsent q hq
  exact Resolution.firstOf_of_only hpath (has_put _ path content) hother

end MemoryStore

namespace Resolution

/-- **Only manifests say where to look.**  For every specifier and all manifests there is one list of canonical paths
such that in each store in memory with these manifests the answer is the first of the paths where there is a file, and
if there is none it names them all.  So an answer's file is there; where there is no answer none of the paths has a
file; and writing a file at one of them, unless it is a manifest, makes it the answer. -/
theorem exists_places (specifier : String) (referrer : Option Url) (extensions : List String)
    (conditions : Conditions) (manifests : String → Option Bytes) :
    ∃ places : List String, (∀ path ∈ places, Path.normalize path = path) ∧
      (∀ m : MemoryStore, m.HasManifests manifests →
        (module m.toStore specifier referrer extensions conditions).outcome =
            .ok (firstOf m.toStore specifier referrer places) ∧
          (∀ url, firstOf m.toStore specifier referrer places = .resolved url →
            m.toStore.has url.pathname = true) ∧
          ∀ failure, firstOf m.toStore specifier referrer places = .unresolved failure →
            ∀ path ∈ places, m.toStore.has path = false) ∧
      ∀ scheme files, (MemoryStore.ofFiles scheme files).HasManifests manifests →
        (∀ path ∈ places, (MemoryStore.ofFiles scheme files).toStore.has path = false) →
        ∀ path ∈ places, Path.name path ≠ "package.json" → ∀ content,
          let written := (MemoryStore.ofFiles scheme files).put path content
          (module written.toStore specifier referrer extensions conditions).outcome =
            .ok (.resolved (written.toStore.url path)) := by
  by_cases hexists : ∃ m : MemoryStore, m.HasManifests manifests
  · obtain ⟨m₀, hm₀⟩ := hexists
    let search : Search := ⟨m₀.toStore, extensions, conditionMatrix conditions⟩
    let places := search.outlook.places specifier (baseOf referrer)
    have hcanonical : ∀ path ∈ places, Path.normalize path = path :=
      (search.looksAt_lookup m₀.closed_toStore specifier (baseOf referrer)).normalize_eq
    -- The places in any other store are the same, since its manifests are.
    have hanswer : ∀ m : MemoryStore, m.HasManifests manifests →
        (module m.toStore specifier referrer extensions conditions).outcome =
          .ok (firstOf m.toStore specifier referrer places) := by
      intro m hm
      have hsame : Manifest.of? m.toStore = Manifest.of? m₀.toStore := by
        rw [hm.of?_eq, hm₀.of?_eq]
      rw [outcome_module m.closed_toStore, Store.outlook, hsame]
      rfl
    refine ⟨places, hcanonical, ?_, ?_⟩
    · intro m hm
      refine ⟨hanswer m hm, ?_, fun failure hfailure => absent_of_firstOf hfailure⟩
      intro url hurl
      obtain ⟨-, content, hcontent⟩ := firstOf_eq_resolved hurl
      rw [Store.has, hcontent]
      rfl
    · intro scheme files hm habsent path hpath hname content written
      have hintact : (MemoryStore.ofFiles scheme files).Intact := MemoryStore.intact_ofFiles scheme files
      have hwritten : written.HasManifests manifests :=
        hm.put hintact (hcanonical path hpath) hname content
      rw [hanswer written hwritten]
      exact congrArg _ (MemoryStore.firstOf_put hintact hcanonical habsent hpath content _ _)
  · -- No store has these manifests, so any list will do.
    refine ⟨[], by simp, fun m hm => absurd ⟨m, hm⟩ hexists, ?_⟩
    intro scheme files hm
    exact absurd ⟨_, hm⟩ hexists

end Resolution

end ModuleReach
