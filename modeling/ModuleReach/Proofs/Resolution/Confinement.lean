import ModuleReach.Proofs.Manifest.Leaves
import ModuleReach.Proofs.Manifest.Patterns
import ModuleReach.Proofs.Path.Within
import ModuleReach.Proofs.Resolution.Exports

/-!
# Exports that stay in their package

The `exports` of a package are paths in the package.  If none of them is written with a segment `.` or `..`, an importer
should reach nothing outside.  But a path with a `*` takes over a piece of the specifier, and nothing is asked of this
piece: through `"./*": "./*"` the specifier `pkg/../../secret.js` leads out of the package and out of the directory where
packages are kept.

A piece that leads down does no harm.  Then what the specifier names through the package lies inside the package.

## Main definitions

* `Manifest.written` — the paths that are written in an expression.
* `Path.IsInner` — the paths that a careful package exports.

## Main results

* `Manifest.exists_of_mem_exportTargets` — where the targets for a name come from.
* `Resolution.module_within` — careful exports keep a specifier in the package, unless a piece of it leads up.
* `Resolution.module_climbing` — a piece that leads up.
-/

namespace ModuleReach

namespace Manifest

/-! ### The paths that are written -/

mutual

/-- The paths that are written in a target expression, under whatever conditions. -/
def written : Json → List String
  | .null => []
  | .bool _ => []
  | .number _ => []
  | .string path => [path]
  | .array items => writtenInItems items
  | .object fields => writtenInFields fields

/-- The paths that are written in the items of an array. -/
def writtenInItems : List Json → List String
  | [] => []
  | item :: rest => written item ++ writtenInItems rest

/-- The paths that are written in the values of some fields. -/
def writtenInFields : List (String × Json) → List String
  | [] => []
  | (_, value) :: rest => written value ++ writtenInFields rest

end

theorem mem_writtenInFields {fields : List (String × Json)} {name path : String} {value : Json}
    (hfield : (name, value) ∈ fields) (hpath : path ∈ written value) : path ∈ writtenInFields fields := by
  induction fields with
  | nil => cases hfield
  | cons field rest ih =>
    rw [writtenInFields, List.mem_append]
    rcases List.mem_cons.1 hfield with rfl | hrest
    · exact .inl hpath
    · exact .inr (ih hrest)

/-! ### Where targets come from -/

section Expand

variable {conditions : List String} {piece : Option String} {target : String}

/-- The paths that are written in an expression are its texts, whatever fields are around them. -/
theorem written_eq (value : Json) : written value = (leaves value).map Leaf.text := by
  induction value using Json.induct with
  | null => rfl
  | bool => rfl
  | number => rfl
  | string => rfl
  | array items ih =>
    rw [written, leaves]
    induction items with
    | nil => rfl
    | cons item rest ihrest =>
      rw [writtenInItems, leavesOfItems, List.map_append, ih item (by simp), ihrest fun i hi => ih i (by simp [hi])]
  | object fields ih =>
    rw [written, leaves]
    generalize ([] : List (String × Json)) = before
    induction fields generalizing before with
    | nil => rfl
    | cons field rest ihrest =>
      rw [writtenInFields, leavesOfFields, List.map_append, List.map_map, ih field (by simp),
        ihrest (fun f hf => ih f (by simp [hf])) (before ++ [field])]
      rfl

theorem mem_written_of_mem_counted {value : Json} {path : String} (h : path ∈ counted conditions (leaves value)) :
    path ∈ written value := by
  rw [written_eq]
  exact (List.filter_sublist.map _).subset h

/-- Each path that an expression gives is one that is written in it, with the piece put in. -/
theorem exists_written_of_expand {value : Json} {targets : List String}
    (h : expand conditions piece value = some targets) (hmem : target ∈ targets) :
    ∃ path ∈ written value, target = substitute piece path := by
  rw [eq_of_expand_eq_some h] at hmem
  obtain ⟨path, hpath, rfl⟩ := List.mem_map.1 hmem
  exact ⟨path, mem_written_of_mem_counted hpath, rfl⟩

end Expand

/-- The value behind a name is that of some field of the mapping. -/
theorem exists_field_of_choice {mapping : List (String × Json)} {name : String} {piece : Option String} {value : Json}
    (h : choice? mapping name = some (piece, value)) : ∃ field, (field, value) ∈ mapping := by
  unfold choice? at h
  split at h
  · rename_i found hfound
    cases h
    split at hfound
    · cases hfound
    · exact ⟨name, InsertionMap.mem_of_lookup hfound⟩
  · obtain ⟨p, hp, heq⟩ := Option.map_eq_some_iff.1 h
    cases heq
    obtain ⟨front, ⟨field, found⟩, back, rfl, htaken, -⟩ := bestPattern?_eq_some_iff.1 hp
    obtain ⟨-, hvalue⟩ := takenBy?_eq_some_iff.1 htaken
    rw [hvalue]
    exact ⟨field, by simp⟩

/-- The values in the mapping of `exports` hold no other paths than these. -/
theorem written_of_mem_exportMapping {exports value : Json} {name path : String}
    (hfield : (name, value) ∈ exportMapping exports) (hpath : path ∈ written value) : path ∈ written exports := by
  unfold exportMapping at hfield
  split at hfield
  · split at hfield
    · rw [written]
      exact mem_writtenInFields hfield hpath
    · cases List.mem_singleton.1 hfield
      exact hpath
  · cases List.mem_singleton.1 hfield
    exact hpath

/-- Each target for a name is written in the `exports`, with the piece put in that stands for the `*`. -/
theorem exists_of_mem_exportTargets {exports : Json} {name target : String} {conditions : List String}
    (h : target ∈ exportTargets exports name conditions) :
    ∃ piece value path, choice? (exportMapping exports) name = some (piece, value) ∧ path ∈ written exports ∧
      target = substitute piece path := by
  rw [exportTargets, matchSubpath_eq] at h
  cases hchoice : choice? (exportMapping exports) name with
  | none => simp [hchoice] at h
  | some chosen =>
    obtain ⟨piece, value⟩ := chosen
    rw [hchoice] at h
    cases hexpand : expand conditions piece value with
    | none => simp [hexpand] at h
    | some targets =>
      dsimp only at h
      rw [hexpand, Option.getD_some] at h
      obtain ⟨path, hpath, htarget⟩ := exists_written_of_expand hexpand h
      obtain ⟨field, hfield⟩ := exists_field_of_choice hchoice
      exact ⟨piece, value, path, rfl, written_of_mem_exportMapping hfield hpath, htarget⟩

end Manifest

/-! ### Inner paths -/

namespace Path

open Text

/-- A path that begins with `./`, and after that has no backslash and no segment `.` or `..`. -/
def IsInner (path : String) : Prop :=
  ∃ rest, path.toList = '.' :: '/' :: rest ∧ '\\' ∉ rest ∧
    ∀ s ∈ splitWhere isSeparator rest, s ≠ ['.'] ∧ s ≠ ['.', '.']

/-- A piece that is put in goes after the dot and the slash at the front of an inner path. -/
theorem IsInner.exists_substitute {path : String} (h : IsInner path) (piece : Option String) :
    ∃ tail, (Manifest.substitute piece path).toList = '.' :: '/' :: tail := by
  obtain ⟨rest, hpath, -⟩ := h
  cases piece with
  | none => exact ⟨rest, hpath⟩
  | some text =>
    refine ⟨replaceChar '*' text.toList rest, ?_⟩
    rw [Manifest.substitute, String.toList_ofList, hpath]
    rfl

/-- An inner path leads into a directory if the piece that is put in brings no segment `..` about. -/
theorem IsInner.isWithin {path : String} (h : IsInner path) {piece : Option String}
    (hsegments : ['.', '.'] ∉ splitWhere isSeparator (Manifest.substitute piece path).toList) (directory : String) :
    IsWithin directory (normalize (join directory (Manifest.substitute piece path))) := by
  obtain ⟨tail, htail⟩ := h.exists_substitute piece
  refine isWithin_normalize_join ?_ hsegments
  rw [htail]
  simp

/-- A piece that leads down brings no segment `..` about in an inner path, nor does no piece at all. -/
theorem IsInner.notMem_segments {path : String} (h : IsInner path) {piece : Option String}
    (hpiece : ∀ text, piece = some text → LeadsDown text.toList) :
    ['.', '.'] ∉ splitWhere isSeparator (Manifest.substitute piece path).toList := by
  obtain ⟨rest, hpath, -, hsegments⟩ := h
  have hrest : ['.', '.'] ∉ splitWhere isSeparator path.toList := by
    have hsplit : splitWhere isSeparator ('.' :: '/' :: rest) = ['.'] :: splitWhere isSeparator rest := rfl
    rw [hpath, hsplit]
    intro hmem
    rcases List.mem_cons.1 hmem with heq | hmem
    · cases heq
    · exact (hsegments _ hmem).2 rfl
  cases piece with
  | none => exact hrest
  | some text =>
    rw [Manifest.substitute, String.toList_ofList]
    exact notMem_segments_replaceChar rfl (hpiece text rfl) hrest

end Path

/-! ### What a package gives out -/

namespace Resolution

open Search (packageDirectory)

variable {specifier directory : String} {ref : Specifier.PackageRef} {nearer : List String} {exports : Json}

/-- **Careful exports keep an importer inside the package, if nothing it names leads up.**  For a store in memory, let a
search for a bare specifier come to a package with `exports` and find nothing in the packages before.  Let every path
that is written in the `exports` begin with `./` and have no backslash and no segment `.` or `..` after that.  Then what
the specifier is resolved to lies inside the package, unless a piece of the specifier stands for the `*` of a pattern,
does not lead down, and brings a segment `..` about in the path that it is put in and that leads to the file. -/
theorem module_within (m : MemoryStore) (referrer : Option Url) (extensions : List String) (conditions : Conditions)
    (hpath : Specifier.isPath specifier = false) (hinternal : Specifier.isInternal specifier = false)
    (href : Specifier.package? specifier = some ref)
    (hreaches : (m.toStore.outlook extensions (conditionMatrix conditions)).Reaches ref (baseOf referrer) nearer
      directory exports)
    (hmisses : ∀ d ∈ nearer, ∃ seen, (Search.openLookup ⟨m.toStore, extensions, conditionMatrix conditions⟩
      (packageDirectory d ref.name) ref.subpath []).outcome = .ok (none, seen))
    (hinner : ∀ path ∈ Manifest.written exports, Path.IsInner path) {url : Url}
    (h : (module m.toStore specifier referrer extensions conditions).outcome = .ok (.resolved url)) :
    Path.IsWithin (packageDirectory directory ref.name) url.pathname ∨
      ∃ piece value path, Manifest.choice? (Manifest.exportMapping exports) ref.subpath = some (some piece, value) ∧
        ¬ Path.LeadsDown piece.toList ∧ path ∈ Manifest.written exports ∧
        ['.', '.'] ∈ Text.splitWhere Path.isSeparator (Manifest.substitute (some piece) path).toList ∧
        url.pathname =
          Path.normalize (Path.join (packageDirectory directory ref.name) (Manifest.substitute (some piece) path)) := by
  let o := m.toStore.outlook extensions (conditionMatrix conditions)
  have hs : m.toStore.Closed := m.closed_toStore
  rw [outcome_module hs, hreaches.places_eq hpath hinternal href, Except.ok.injEq] at h
  -- The file is at one of the places, and none of the packages before has one.
  obtain ⟨place, hplace, hhas, hurl⟩ : ∃ place ∈ o.nearPlaces ref nearer ++
      o.exportPlaces exports (packageDirectory directory ref.name) ref.subpath,
      m.toStore.has place = true ∧ url = m.toStore.url place := by
    unfold firstOf at h
    split at h
    · rename_i place hfind
      cases h
      exact ⟨place, List.mem_of_find?_eq_some hfind, List.find?_some hfind, rfl⟩
    · cases h
  have hexported : place ∈ o.exportPlaces exports (packageDirectory directory ref.name) ref.subpath := by
    refine (List.mem_append.1 hplace).resolve_left ?_
    intro hnear
    obtain ⟨d, hd, hopen⟩ := List.mem_flatMap.1 hnear
    obtain ⟨seen, hlookup⟩ := hmisses d hd
    cases hhas.symm.trans (Search.absent_of_openLookup hs hlookup place hopen)
  obtain ⟨names, -, htargets⟩ := List.mem_flatMap.1 hexported
  obtain ⟨target, htarget, rfl⟩ := List.mem_map.1 htargets
  obtain ⟨piece, value, path, hchoice, hwritten, rfl⟩ := Manifest.exists_of_mem_exportTargets htarget
  have hpathname : url.pathname =
      Path.normalize (Path.join (packageDirectory directory ref.name) (Manifest.substitute piece path)) := by
    rw [hurl, Store.pathname_url, Path.normalize_normalize]
  by_cases hup : ['.', '.'] ∈ Text.splitWhere Path.isSeparator (Manifest.substitute piece path).toList
  · -- Only a piece that does not lead down has brought the segment about.
    obtain ⟨text, htext, hleads⟩ : ∃ text, piece = some text ∧ ¬ Path.LeadsDown text.toList := by
      by_contra hdown
      push Not at hdown
      exact (hinner path hwritten).notMem_segments hdown hup
    subst htext
    exact .inr ⟨text, value, path, hchoice, hleads, hwritten, hup, hpathname⟩
  · refine .inl ?_
    rw [hpathname]
    exact (hinner path hwritten).isWithin hup _

/-! ### A package that exports all its files -/

/-- Exports that give out every file of a package. -/
def wildExports : Json := .object [("./*", .string "./*")]

/-- A package with these exports, and a file outside. -/
def wildExporting : MemoryStore :=
  ((MemoryStore.empty "drive").put "/node_modules/pkg/package.json"
    (Utf8.encode "\x7b\"exports\":\x7b\"./*\":\"./*\"\x7d\x7d".toList)).put "/secret.js" []

theorem isInner_wildExports : ∀ path ∈ Manifest.written wildExports, Path.IsInner path := by
  intro path hpath
  have hwritten : Manifest.written wildExports = ["./*"] := rfl
  have hsegments : Text.splitWhere Path.isSeparator ['*'] = [['*']] := rfl
  rw [hwritten, List.mem_singleton] at hpath
  subst hpath
  exact ⟨['*'], rfl, by decide, by simp [hsegments]⟩

/-- A search from the root comes to the package at once. -/
theorem reaches_wildExporting (subpath : String) (extensions : List String) (matrix : Conditions) :
    (wildExporting.toStore.outlook extensions matrix).Reaches ⟨"pkg", subpath⟩ (baseOf none) [] "/"
      wildExports := by
  have hparse : Manifest.parse? (Utf8.encode "\x7b\"exports\":\x7b\"./*\":\"./*\"\x7d\x7d".toList) =
      some [("exports", wildExports)] := by cbv
  have hmanifest : Path.normalize (Manifest.path (packageDirectory "/" "pkg")) ≠ Path.normalize "/secret.js" := by
    decide +kernel
  have hpath : Path.normalize "/node_modules/pkg/package.json" =
      Path.normalize (Manifest.path (packageDirectory "/" "pkg")) := by decide +kernel
  have hintact : ((MemoryStore.empty "drive").put "/node_modules/pkg/package.json"
      (Utf8.encode "\x7b\"exports\":\x7b\"./*\":\"./*\"\x7d\x7d".toList)).Intact :=
    (MemoryStore.intact_empty "drive").put _ _
  refine ⟨⟨[], by decide +kernel⟩, by simp, ?_⟩
  rw [Outlook.exports?_outlook, Manifest.of?, wildExporting, MemoryStore.content?_put_of_ne hintact [] hmanifest,
    MemoryStore.content?_put_empty, if_pos hpath, Option.bind_some, hparse]
  rfl

/-- A specifier with one place in the package is resolved to it, if there is a file. -/
theorem outcome_wildExporting {specifier subpath place : String} (hpath : Specifier.isPath specifier = false)
    (hinternal : Specifier.isInternal specifier = false)
    (href : Specifier.package? specifier = some ⟨"pkg", subpath⟩)
    (hplace : (Manifest.exportTargets wildExports subpath []).map
      (fun target => Path.normalize (Path.join (packageDirectory "/" "pkg") target)) = [place])
    (hfile : wildExporting.toStore.has place = true) :
    (module wildExporting.toStore specifier none [] []).outcome =
      .ok (.resolved (wildExporting.toStore.url place)) := by
  have hplaces : (wildExporting.toStore.outlook [] (conditionMatrix [])).exportPlaces wildExports
      (packageDirectory "/" "pkg") subpath = [place] := by
    rw [Outlook.exportPlaces, Store.outlook, conditionMatrix, if_pos rfl, List.flatMap_singleton]
    exact hplace
  rw [outcome_module wildExporting.closed_toStore, (reaches_wildExporting subpath [] _).places_eq hpath hinternal href,
    hplaces]
  have hnone : ∀ q ∈ ([] : List String), wildExporting.toStore.has q = false := by simp
  exact congrArg Except.ok (firstOf_of_first hnone hfile)

/-- The manifest of the package is resolved to a file in the package. -/
theorem module_within_wildExporting :
    (module wildExporting.toStore "pkg/package.json" none [] []).outcome =
        .ok (.resolved (wildExporting.toStore.url "/node_modules/pkg/package.json")) ∧
      Path.IsWithin (packageDirectory "/" "pkg")
        (wildExporting.toStore.url "/node_modules/pkg/package.json").pathname := by
  have hpath : Specifier.isPath "pkg/package.json" = false := by decide +kernel
  have hinternal : Specifier.isInternal "pkg/package.json" = false := by decide +kernel
  have href : Specifier.package? "pkg/package.json" = some ⟨"pkg", "./package.json"⟩ := by decide +kernel
  have hfile : wildExporting.toStore.has "/node_modules/pkg/package.json" = true := by decide +kernel
  have hresolved := outcome_wildExporting hpath hinternal href (by decide +kernel) hfile
  have hchoice : Manifest.choice? (Manifest.exportMapping wildExports) "./package.json" =
      some (some (String.ofList "package.json".toList), .string "./*") := rfl
  have hsegment : Path.IsSegment "package.json".toList := ⟨by decide, by decide, by decide, by simp [Path.isSeparator]⟩
  refine ⟨hresolved, (module_within wildExporting none [] [] hpath hinternal href
    (reaches_wildExporting "./package.json" [] _) (by simp) isInner_wildExports hresolved).resolve_right ?_⟩
  rintro ⟨piece, value, -, hpiece, hleads, -⟩
  cases hchoice.symm.trans hpiece
  rw [String.toList_ofList] at hleads
  exact hleads hsegment.leadsDown

/-- Two segments `..` in the specifier lead out of the package. -/
theorem module_climbing :
    let o := wildExporting.toStore.outlook [] (conditionMatrix [])
    Specifier.isPath "pkg/../../secret.js" = false ∧ Specifier.isInternal "pkg/../../secret.js" = false ∧
      Specifier.package? "pkg/../../secret.js" = some ⟨"pkg", "./../../secret.js"⟩ ∧
      o.Reaches ⟨"pkg", "./../../secret.js"⟩ (baseOf none) [] "/" wildExports ∧
      (∀ path ∈ Manifest.written wildExports, Path.IsInner path) ∧
      (module wildExporting.toStore "pkg/../../secret.js" none [] []).outcome =
        .ok (.resolved (wildExporting.toStore.url "/secret.js")) ∧
      ¬ Path.IsWithin (packageDirectory "/" "pkg") (wildExporting.toStore.url "/secret.js").pathname := by
  intro o
  have hpath : Specifier.isPath "pkg/../../secret.js" = false := by decide +kernel
  have hinternal : Specifier.isInternal "pkg/../../secret.js" = false := by decide +kernel
  have href : Specifier.package? "pkg/../../secret.js" = some ⟨"pkg", "./../../secret.js"⟩ := by decide +kernel
  have hfile : wildExporting.toStore.has "/secret.js" = true := MemoryStore.has_put _ _ _
  exact ⟨hpath, hinternal, href, reaches_wildExporting _ _ _, isInner_wildExports,
    outcome_wildExporting hpath hinternal href (by decide +kernel) hfile, by decide +kernel⟩

end Resolution

end ModuleReach
