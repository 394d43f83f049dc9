import ModuleReach.Proofs.Path.Climbing
import ModuleReach.Proofs.Resolution.Outlook
import ModuleReach.Store.Memory

/-!
# The package in whose scope a directory lies

The search for the manifest in whose scope a directory lies climbs from the directory to the root and stops at the first
directory with a manifest.  It comes to an end, since the climb does; and what it finds is the longest of the directories
that enclose the given one and have a manifest.  A `package.json` that is not a JSON object in UTF-8 does not stop it.

## Main definitions

* `Manifest.IsManifestOf` — that a manifest stands in the `package.json` of a directory.
* `Manifest.IsScopeOf` — the longest of the ancestors of a directory that have a manifest, with its manifest.

## Main results

* `Manifest.outcome_scope_eq_some_iff`, `Manifest.outcome_scope_eq_none_iff` — what the search finds in a closed store.
* `Manifest.scope_longest` — the climb, and what is found on it in a store in memory.
-/

namespace ModuleReach.Manifest

/-! ### Manifests of directories -/

/-- A manifest stands in the `package.json` of a directory: the file is there, it is UTF-8, and what it says is a JSON object
with the fields of the manifest. -/
def IsManifestOf (s : Store) (manifest : Manifest) (directory : String) : Prop :=
  ∃ content text, s.read (path directory) = .ok (some content) ∧ Utf8.decode content = .ok text ∧
    Json.read? text = some (.object manifest)

theorem parse?_eq_some_iff {content : Bytes} {manifest : Manifest} :
    parse? content = some manifest ↔
      ∃ text, Utf8.decode content = .ok text ∧ Json.read? text = some (.object manifest) := by
  unfold parse?
  cases Utf8.decode content with
  | error mistake => simp
  | ok text =>
    cases hread : Json.read? text with
    | none => simp [hread]
    | some value => cases value <;> simp [hread]

theorem of?_eq_some_iff {s : Store} (hs : s.Closed) {directory : String} {manifest : Manifest} :
    of? s directory = some manifest ↔ IsManifestOf s manifest directory := by
  simp only [of?, IsManifestOf, Option.bind_eq_some_iff, parse?_eq_some_iff, Store.read_eq hs, Except.ok.injEq,
    exists_and_left]

theorem of?_eq_none_iff {s : Store} (hs : s.Closed) {directory : String} :
    of? s directory = none ↔ ∀ manifest, ¬ IsManifestOf s manifest directory := by
  simp only [Option.eq_none_iff_forall_ne_some, Ne, of?_eq_some_iff hs]

/-! ### The search -/

/-- The scope in which a directory lies: the longest of its ancestors that have a manifest, with its manifest. -/
structure IsScopeOf (s : Store) (scope : String × Manifest) (directory : String) : Prop where
  mem : scope.1 ∈ Path.ancestors directory
  isManifest : IsManifestOf s scope.2 scope.1
  longest : ∀ other ∈ Path.ancestors directory, ∀ manifest, IsManifestOf s manifest other →
    other.length ≤ scope.1.length

section Closed

variable {s : Store} {directory : String}

/-- There is only one scope. -/
theorem IsScopeOf.unique (hs : s.Closed) {found found' : String × Manifest} (h : IsScopeOf s found directory)
    (h' : IsScopeOf s found' directory) : found = found' := by
  have hdirectory : found.1 = found'.1 := by
    apply Path.eq_of_length_eq h.mem h'.mem
    exact le_antisymm (h'.longest _ h.mem _ h.isManifest) (h.longest _ h'.mem _ h'.isManifest)
  have hmanifest := of?_eq_some_iff hs |>.2 h'.isManifest
  rw [← hdirectory, (of?_eq_some_iff hs).2 h.isManifest] at hmanifest
  exact Prod.ext hdirectory (Option.some.inj hmanifest)

/-- The first ancestor with a manifest is the longest one. -/
theorem isScopeOf_of_findSome? (hs : s.Closed) {found : String × Manifest}
    (h : ((Path.ancestors directory).findSome? fun d => (of? s d).map (d, ·)) = some found) :
    IsScopeOf s found directory := by
  obtain ⟨lower, d, upper, hsplit, hd, hlower⟩ := List.findSome?_eq_some_iff.1 h
  obtain ⟨manifest, hmanifest, rfl⟩ := Option.map_eq_some_iff.1 hd
  refine ⟨by simp [hsplit], (of?_eq_some_iff hs).1 hmanifest, ?_⟩
  intro other hother manifest' hmanifest'
  rw [hsplit, List.mem_append, List.mem_cons] at hother
  have hpairwise := Path.pairwise_length_ancestors directory
  rw [hsplit, List.pairwise_append, List.pairwise_cons] at hpairwise
  rcases hother with hother | rfl | hother
  · -- The search would have stopped there.
    have hnone := hlower other hother
    rw [(of?_eq_some_iff hs).2 hmanifest'] at hnone
    cases hnone
  · exact le_refl _
  · exact (hpairwise.2.1.1 other hother).le

theorem outcome_scope_eq_none_iff (hs : s.Closed) :
    (scope s directory).outcome = .ok none ↔
      ¬ ∃ d ∈ Path.ancestors directory, ∃ manifest, IsManifestOf s manifest d := by
  rw [scope, outcome_firstScope hs, Except.ok.injEq, List.findSome?_eq_none_iff]
  simp only [Option.map_eq_none_iff, of?_eq_none_iff hs, not_exists, not_and]

theorem outcome_scope_eq_some_iff (hs : s.Closed) {found : String × Manifest} :
    (scope s directory).outcome = .ok (some found) ↔ IsScopeOf s found directory := by
  constructor
  · intro h
    rw [scope, outcome_firstScope hs, Except.ok.injEq] at h
    exact isScopeOf_of_findSome? hs h
  · intro h
    rw [scope, outcome_firstScope hs]
    cases hfind : (Path.ancestors directory).findSome? fun d => (of? s d).map (d, ·) with
    | none =>
      have hnone := List.findSome?_eq_none_iff.1 hfind _ h.mem
      rw [(of?_eq_some_iff hs).2 h.isManifest] at hnone
      cases hnone
    | some other => rw [h.unique hs (isScopeOf_of_findSome? hs hfind)]

end Closed

/-- **The package in whose scope a directory lies.**  For every text, the climb from the canonical path that it names ends, and
visits its ancestors: the path, and then with one segment less each time the paths above it, down to the root, which
comes last and only once.  So there is one more of them than there are segments, and none is repeated.  In every store in memory
what is found is the longest ancestor that has a manifest, with this manifest, and nothing is found just if none has one. -/
theorem scope_longest (directory : String) :
    (∀ visited, Path.Climbs (Path.normalize directory) visited ↔ visited = Path.ancestors directory) ∧
    Path.ancestors directory =
      (Path.segments (Path.normalize directory)).inits.reverse.map (fun names => String.ofList (Path.render names)) ∧
    (Path.ancestors directory).length = (Path.segments (Path.normalize directory)).length + 1 ∧
    (Path.ancestors directory).Nodup ∧
    (Path.ancestors directory).getLast? = some "/" ∧ (Path.ancestors directory).count "/" = 1 ∧
    ∀ m : MemoryStore,
      (∀ d manifest, (scope m.toStore directory).outcome = .ok (some (d, manifest)) ↔
        IsScopeOf m.toStore (d, manifest) directory) ∧
      ((scope m.toStore directory).outcome = .ok none ↔
        ¬ ∃ d ∈ Path.ancestors directory, ∃ manifest, IsManifestOf m.toStore manifest d) := by
  have hlast := Path.getLast?_ancestors directory
  have hcount : (Path.ancestors directory).count "/" = 1 :=
    List.count_eq_one_of_mem (Path.nodup_ancestors directory) (List.mem_of_getLast? hlast)
  refine ⟨fun visited => Path.climbs_iff, Path.ancestors_eq_inits directory, Path.length_ancestors directory,
    Path.nodup_ancestors directory, hlast, hcount, ?_⟩
  intro m
  exact ⟨fun d manifest => outcome_scope_eq_some_iff m.closed_toStore, outcome_scope_eq_none_iff m.closed_toStore⟩

end ModuleReach.Manifest
