import ModuleReach.Proofs.Resolution.Addon

/-!
# Binaries stay in their directory

The binaries of a package for a host are the files directly in `prebuilds/<host>`, and nothing else is looked for, as long as what
the package is called gives the name of one file.  The slashes in the name of a package are replaced, but not the
backslashes, although both separate the segments of a path: a package that is called `..\..\..\secret` has its binaries
outside its own directory.

## Main definitions

* `Addon.IsInside` — that a path is that of a file directly in a package's directory of binaries for a host.

## Main results

* `Addon.isInside_place` — the binary of a package for a host is inside, if what it is called is the name of one file.
* `Resolution.addon_inside` — so are then all places at which an addon is looked for.
* `Resolution.addon_climbing` — a backslash in the name of a package leads out of it.
-/

namespace ModuleReach

namespace Addon

/-- Whether a path is that of a file directly in the directory of a package's binaries for a host. -/
def IsInside (package host path : String) : Prop :=
  ∃ leaf, Path.canonical path.toList =
    Path.canonical package.toList ++ ["prebuilds".toList, host.toList, leaf]

/-- A binary whose name is that of one file is directly in the directory for its host. -/
theorem isInside_place {package host extension : String} {manifest : Option Manifest} (hhost : Path.IsSegment host.toList)
    (hfile : Path.IsSegment (Manifest.prebuildName package manifest ++ extension).toList) :
    IsInside package host (place package manifest host extension) := by
  have hprebuilds : Path.IsSegment "prebuilds".toList := by
    refine ⟨by decide, by decide, by decide, ?_⟩
    simp [Path.isSeparator]
  refine ⟨(Manifest.prebuildName package manifest ++ extension).toList, ?_⟩
  rw [place, Path.canonical_normalize, binaryPath, Path.canonical_join_of_isSegment _ hfile,
    Path.canonical_join_of_isSegment _ hhost, Path.canonical_join_of_isSegment _ hprebuilds, List.append_assoc,
    List.append_assoc]
  rfl

/-- What is called by the name of one file: neither slashes nor backslashes occur, and it does not lead back. -/
theorem isSegment_prebuildName {package extension : String} {manifest : Option Manifest}
    (hextension : '/' ∉ extension.toList)
    (hback : '\\' ∉ (Manifest.prebuildName package manifest ++ extension).toList)
    (hdot : Manifest.prebuildName package manifest ++ extension ≠ ".")
    (hdots : Manifest.prebuildName package manifest ++ extension ≠ "..") :
    Path.IsSegment (Manifest.prebuildName package manifest ++ extension).toList := by
  refine ⟨?_, ?_, ?_, ?_⟩
  · intro h
    rw [String.toList_append, List.append_eq_nil_iff] at h
    exact Manifest.prebuildName_ne_empty package manifest (String.toList_eq_nil_iff.1 h.1)
  · exact fun h => hdot (String.toList_inj.1 h)
  · exact fun h => hdots (String.toList_inj.1 h)
  · intro c hc
    have hslash : c ≠ '/' := by
      rintro rfl
      rw [String.toList_append] at hc
      rcases List.mem_append.1 hc with hname | hc
      · exact (Manifest.of_mem_prebuildName hname).1 rfl
      · exact hextension hc
    have hbackslash : c ≠ '\\' := by
      rintro rfl
      exact hback hc
    simp [Path.isSeparator, hslash, hbackslash]

/-- The places at which an addon is looked for are those of the binaries of the package that holds it. -/
theorem exists_place_of_mem {o : Outlook} {specifier base path : String} {hosts : List String}
    (h : path ∈ o.addonPlaces specifier base hosts) : ∃ package manifest host extension,
      o.holder? specifier base = some (package, manifest) ∧ host ∈ hosts ∧ extension ∈ o.extensions ∧
        path = place package manifest host extension := by
  rw [Outlook.addonPlaces_eq] at h
  cases hholder : o.holder? specifier base with
  | none => simp [hholder] at h
  | some found =>
    rw [hholder] at h
    obtain ⟨host, hhost, hmem⟩ := List.mem_flatMap.1 h
    obtain ⟨extension, hextension, rfl⟩ := List.mem_map.1 hmem
    exact ⟨found.1, found.2, host, extension, rfl, hhost, hextension, rfl⟩

end Addon

namespace Resolution

/-- **Binaries are looked for only in their directory.**  Let each host be the name of one file, and let no extension have a
slash.  If what the binaries of the package are called has no backslash either, and is not `.` or `..`, then all places at
which the addon is looked for, and so the answer, are directly in `prebuilds/<host>` in the package that holds the addon,
for one of the hosts. -/
theorem addon_inside (m : MemoryStore) (specifier : String) (referrer : Option Url) (conditions : Conditions)
    {hosts extensions : List String} (hhosts : ∀ host ∈ hosts, Path.IsSegment host.toList)
    (hextensions : ∀ extension ∈ extensions, '/' ∉ extension.toList)
    (hplain : ∀ package manifest, Addon.Holds (Manifest.of? m.toStore) (conditionMatrix conditions)
        (Addon.asked specifier) (baseOf referrer) (some (package, manifest)) →
      ∀ extension ∈ extensions, '\\' ∉ (Manifest.prebuildName package manifest ++ extension).toList ∧
        Manifest.prebuildName package manifest ++ extension ∉ [".", ".."]) :
    ∃ places : List String,
      (Addon.remappedLookup m.toStore (Addon.asked specifier) (baseOf referrer) conditions hosts extensions).LooksAt
        m.toStore places ∧
      (addon m.toStore specifier referrer extensions conditions hosts false).outcome =
        .ok (firstOf m.toStore (Addon.asked specifier) referrer places) ∧
      ∀ path ∈ places, ∃ package manifest, Addon.Holds (Manifest.of? m.toStore) (conditionMatrix conditions)
        (Addon.asked specifier) (baseOf referrer) (some (package, manifest)) ∧
          ∃ host ∈ hosts, Addon.IsInside package host path := by
  let asked := Addon.asked specifier
  let o := m.toStore.outlook extensions (conditionMatrix conditions)
  refine ⟨o.addonPlaces asked (baseOf referrer) hosts,
    Addon.looksAt_remappedLookup m.closed_toStore asked (baseOf referrer) conditions hosts extensions,
    outcome_addon_asked m.closed_toStore specifier referrer extensions conditions hosts, ?_⟩
  intro path hpath
  obtain ⟨package, manifest, host, extension, hholder, hhost, hextension, rfl⟩ := Addon.exists_place_of_mem hpath
  have hholds : Addon.Holds (Manifest.of? m.toStore) (conditionMatrix conditions) asked (baseOf referrer)
      (some (package, manifest)) := Addon.holds_of?_iff.2 hholder
  obtain ⟨hback, hdots⟩ := hplain package manifest hholds extension hextension
  have hfile : Path.IsSegment (Manifest.prebuildName package manifest ++ extension).toList :=
    Addon.isSegment_prebuildName (hextensions extension hextension) hback (fun h => hdots (by simp [h]))
      (fun h => hdots (by simp [h]))
  exact ⟨package, manifest, hholds, host, hhost, Addon.isInside_place (hhosts host hhost) hfile⟩

/-- A store with one package of a name, which is given as it is written in JSON. -/
def called (name : String) (files : List (String × Bytes)) : MemoryStore :=
  .ofFiles "drive" (("/package.json", Utf8.encode ("\x7b\"name\":\"" ++ name ++ "\"\x7d").toList) :: files)

/-- The slash in the name of a package is replaced, and its binaries stay in their directory. -/
theorem addon_inside_scoped :
    let m := called "@scope/addon" []
    let extensions := [".node", ".bare"]
    ((∀ host ∈ ["linux-x64"], Path.IsSegment host.toList) ∧ (∀ extension ∈ extensions, '/' ∉ extension.toList) ∧
      ∀ package manifest, Addon.Holds (Manifest.of? m.toStore) (conditionMatrix []) "." (baseOf none)
          (some (package, manifest)) →
        ∀ extension ∈ extensions, '\\' ∉ (Manifest.prebuildName package manifest ++ extension).toList ∧
          Manifest.prebuildName package manifest ++ extension ∉ [".", ".."]) ∧
    ∃ places : List String,
      (Addon.remappedLookup m.toStore "." (baseOf none) [] ["linux-x64"] extensions).LooksAt m.toStore places ∧
      (addon m.toStore "" none extensions [] ["linux-x64"] false).outcome = .ok (firstOf m.toStore "." none places) ∧
      ∀ path ∈ places, ∃ package manifest, Addon.Holds (Manifest.of? m.toStore) (conditionMatrix []) "." (baseOf none)
        (some (package, manifest)) ∧ ∃ host ∈ ["linux-x64"], Addon.IsInside package host path := by
  intro m extensions
  have hhosts : ∀ host ∈ ["linux-x64"], Path.IsSegment host.toList := by
    intro host hhost
    rw [List.mem_singleton.1 hhost]
    exact ⟨by decide, by decide, by decide, by simp [Path.isSeparator]⟩
  have hextensions : ∀ extension ∈ extensions, '/' ∉ extension.toList := by decide +kernel
  have hplain : ∀ package manifest, Addon.Holds (Manifest.of? m.toStore) (conditionMatrix []) "." (baseOf none)
        (some (package, manifest)) →
      ∀ extension ∈ extensions, '\\' ∉ (Manifest.prebuildName package manifest ++ extension).toList ∧
        Manifest.prebuildName package manifest ++ extension ∉ [".", ".."] := by
    intro package manifest hholds
    have hholder : (m.toStore.outlook [] (conditionMatrix [])).holder? "." (baseOf none) = some (package, manifest) :=
      Addon.holds_of?_iff.1 hholds
    have hname : ((m.toStore.outlook [] (conditionMatrix [])).holder? "." (baseOf none)).map
        (fun found => Manifest.prebuildName found.1 found.2) = some "@scope+addon" := by decide +kernel
    rw [hholder, Option.map_some, Option.some.injEq] at hname
    rw [hname]
    decide +kernel
  have hinside := addon_inside m "" none [] hhosts hextensions (by rw [Addon.asked_empty]; exact hplain)
  rw [Addon.asked_empty] at hinside
  exact ⟨⟨hhosts, hextensions, hplain⟩, hinside⟩

/-- **A backslash leads out of the directory.**  A package that is called `..\..\..\secret` has a file as its binary that is
in no directory of binaries for the host. -/
theorem addon_climbing :
    let m := called "..\\\\..\\\\..\\\\secret" [("/secret.node", [])]
    Path.IsSegment "linux-x64".toList ∧
      (addon m.toStore "." (some (m.toStore.url "/index.js")) [".node", ".bare"] [] ["linux-x64"] false).outcome =
        .ok (.resolved (m.toStore.url "/secret.node")) ∧
      ∀ package, ¬ Addon.IsInside package "linux-x64" (m.toStore.url "/secret.node").pathname := by
  intro m
  refine ⟨⟨by decide, by decide, by decide, by simp [Path.isSeparator]⟩, ?_, ?_⟩
  · rw [outcome_addon_asked m.closed_toStore, Except.ok.injEq]
    decide +kernel
  · rintro package ⟨leaf, hleaf⟩
    have hone : (Path.canonical (m.toStore.url "/secret.node").pathname.toList).length = 1 := by decide +kernel
    rw [hleaf, List.length_append] at hone
    simp at hone

end Resolution

end ModuleReach
