import Mathlib.Data.List.Forall2
import ModuleReach.Proofs.Resolution.Closed
import ModuleReach.Proofs.Resolution.Addon

/-!
# Targets that are written differently

A target may be written with blanks around it: its two parts, and so the sets of conditions, are the same.  The hosts
of addons are the targets as they are written, though.  A blank is part of the name of the directory in which a binary is
looked for, and a binary for `linux-x64` is not found for ` linux-x64`.

## Main definitions

* `Target.Same` — texts that are the same target.
* `Addon.SameHost` — texts that name the same directory of binaries in every package.

## Main results

* `Target.Same.trimBlanks_eq` — such texts differ in nothing but the blanks around them.
* `Resolver.standard_same` — the same targets lead to the same answers, for addons just if they are the same hosts.
* `Resolver.standard_blank` — a blank can keep an addon from being found.
-/

namespace ModuleReach

/-! ### Targets -/

namespace Target

/-- Texts that are the same target. -/
def Same (text text' : String) : Prop := ∃ t, parse? text = some t ∧ parse? text' = some t

/-- A target is its two parts with a dash between them, up to the blanks around it. -/
theorem trimBlanks_of_parse? {text : String} {t : Target} (h : parse? text = some t) :
    Text.trimBlanks text.toList = t.os.toList ++ '-' :: t.arch.toList := by
  have hjoin := Text.joinWith_splitWhere '-' (Text.trimBlanks text.toList)
  unfold parse? at h
  split at h
  · rename_i os arch hsplit
    rw [hsplit] at hjoin
    split at h
    · cases h
    · cases h
      rw [String.toList_ofList, String.toList_ofList, ← hjoin]
      simp [Text.joinWith]
  · cases h

/-- Texts that are the same target differ in nothing but the blanks around them. -/
theorem Same.trimBlanks_eq {text text' : String} (h : Same text text') :
    Text.trimBlanks text.toList = Text.trimBlanks text'.toList := by
  obtain ⟨t, htext, htext'⟩ := h
  rw [trimBlanks_of_parse? htext, trimBlanks_of_parse? htext']

/-- Without blanks around them the same targets are the same texts. -/
theorem eq_of_forall₂_same {targets targets' : List String} (h : List.Forall₂ Same targets targets')
    (htrim : ∀ target ∈ targets ++ targets', Text.trimBlanks target.toList = target.toList) :
    targets = targets' := by
  induction h with
  | nil => rfl
  | @cons text text' rest rest' hsame _ ih =>
    have htext : text = text' := by
      rw [← String.toList_inj, ← htrim text (by simp), ← htrim text' (by simp)]
      exact hsame.trimBlanks_eq
    have hrest : rest = rest' := by
      refine ih fun target htarget => htrim target ?_
      rcases List.mem_append.1 htarget with hmem | hmem <;> simp [hmem]
    rw [htext, hrest]

end Target

/-- The same targets give the same sets of conditions. -/
theorem exists_buildConditions_of_same {targets targets' : List String}
    (h : List.Forall₂ Target.Same targets targets') :
    ∃ conditions, buildConditions targets = .ok conditions ∧ buildConditions targets' = .ok conditions := by
  induction h with
  | nil => exact ⟨[], rfl, rfl⟩
  | cons hsame _ ih =>
    obtain ⟨t, htext, htext'⟩ := hsame
    obtain ⟨others, hrest, hrest'⟩ := ih
    exact ⟨_, buildConditions_cons.2 ⟨t, others, htext, hrest, rfl⟩,
      buildConditions_cons.2 ⟨t, others, htext', hrest', rfl⟩⟩

/-! ### Hosts -/

namespace Addon

/-- The directory of a package's binaries for a host. -/
def hostDirectory (package host : String) : String := Path.join (Path.join package "prebuilds") host

/-- Texts that name the same directory of binaries in a package. -/
def SameHostIn (package host host' : String) : Prop :=
  Path.normalize (hostDirectory package host) = Path.normalize (hostDirectory package host')

/-- Texts that name the same directory of binaries in every package. -/
def SameHost (host host' : String) : Prop := ∀ package, SameHostIn package host host'

theorem forall₂_sameHost_iff {hosts hosts' : List String} :
    List.Forall₂ SameHost hosts hosts' ↔ ∀ package, List.Forall₂ (SameHostIn package) hosts hosts' := by
  constructor
  · intro h package
    exact h.imp fun _ _ hsame => hsame package
  · intro h
    induction hosts generalizing hosts' with
    | nil =>
      cases h ""
      exact .nil
    | cons host rest ih =>
      cases hosts' with
      | nil => cases h ""
      | cons host' rest' =>
        exact .cons (fun package => (List.forall₂_cons.1 (h package)).1)
          (ih fun package => (List.forall₂_cons.1 (h package)).2)

/-- Only the canonical path of a package counts. -/
theorem sameHostIn_normalize {package host host' : String} :
    SameHostIn (Path.normalize package) host host' ↔ SameHostIn package host host' := by
  have hdirectory : ∀ host, Path.normalize (hostDirectory (Path.normalize package) host) =
      Path.normalize (hostDirectory package host) := fun host =>
    Path.normalize_join_congr (Path.normalize_join_congr (Path.normalize_normalize package) "prebuilds") host
  rw [SameHostIn, SameHostIn, hdirectory host, hdirectory host']

/-- In the same directory of binaries a name is one place. -/
theorem SameHostIn.binaryPath_eq {package host host' : String} (h : SameHostIn package host host')
    (name extension : String) :
    Path.normalize (binaryPath package name host extension) =
      Path.normalize (binaryPath package name host' extension) :=
  Path.normalize_join_congr h _

end Addon

namespace Outlook

open Addon (SameHost SameHostIn)

variable (o : Outlook) {hosts hosts' : List String}

theorem binaryPlaces_congr {package : String} (name : String) (h : List.Forall₂ (SameHostIn package) hosts hosts') :
    o.binaryPlaces package name hosts = o.binaryPlaces package name hosts' := by
  induction h with
  | nil => rfl
  | @cons host host' rest rest' hsame _ ih =>
    have hplaces : (o.extensions.map fun extension => Path.normalize (Addon.binaryPath package name host extension)) =
        o.extensions.map fun extension => Path.normalize (Addon.binaryPath package name host' extension) :=
      List.map_congr_left fun extension _ => hsame.binaryPath_eq name extension
    unfold binaryPlaces at ih ⊢
    rw [List.flatMap_cons, List.flatMap_cons, hplaces, ih]

/-- The same hosts are looked for at the same places. -/
theorem addonPlaces_congr (specifier base : String) (h : List.Forall₂ SameHost hosts hosts') :
    o.addonPlaces specifier base hosts = o.addonPlaces specifier base hosts' := by
  rw [addonPlaces_eq, addonPlaces_eq]
  cases o.holder? specifier base with
  | none => rfl
  | some found => exact o.binaryPlaces_congr _ (Addon.forall₂_sameHost_iff.1 h found.1)

end Outlook

/-! ### A package without files -/

namespace MemoryStore

@[simp] theorem content?_empty (scheme path : String) : (empty scheme).toStore.content? path = none := by
  rw [content?_toStore]
  rfl

theorem of?_empty (scheme directory : String) : Manifest.of? (empty scheme).toStore directory = none := by
  rw [Manifest.of?, content?_empty, Option.bind_none]

theorem firstOf_empty (scheme specifier : String) (referrer : Option Url) (paths : List String) :
    Resolution.firstOf (empty scheme).toStore specifier referrer paths =
      .unresolved ⟨specifier, referrer, paths.map fun path => ((empty scheme).toStore.url path).href⟩ := by
  have hnone : paths.find? (empty scheme).toStore.has = none :=
    Store.find?_has_eq_none_iff.2 fun path _ => by rw [Store.has, content?_empty, Option.isSome_none]
  rw [Resolution.firstOf, hnone]

end MemoryStore

namespace Outlook

open Addon (SameHostIn)

variable {o : Outlook} {hosts hosts' : List String}

/-- Where there are no manifests, an absolute path names the package at this path. -/
theorem addonPlaces_normalize (hnone : ∀ directory, o.manifest? directory = none) (package base : String) :
    o.addonPlaces (Path.normalize package) base hosts =
      o.binaryPlaces (Path.normalize package) (Manifest.prebuildName (Path.normalize package) none) hosts := by
  obtain ⟨rest, hslash⟩ := Path.exists_toList_normalize package
  have hinternal : Specifier.isInternal (Path.normalize package) = false := by
    simp [Specifier.isInternal, hslash]
  have hpath : Specifier.isPath (Path.normalize package) = true := by
    simp [Specifier.isPath, hslash]
  have hjoin : Path.join base (Path.normalize package) = Path.normalize package := by
    rw [Path.join, Path.joinChars, if_pos (by simp [hslash]), String.ofList_toList]
  have hscope : o.scope? (Path.normalize package) = none := by
    simp [scope?, hnone]
  have hpackage : o.package? (Path.normalize package) base = some (Path.normalize package, none) := by
    rw [package?, if_pos hpath, hjoin, Path.normalize_normalize]
    dsimp only
    rw [hscope]
  rw [addonPlaces, if_neg (by simp [hinternal]), ownPlaces, hpackage]

/-- Hosts that have the same places in a package are the same hosts there. -/
theorem forall₂_sameHostIn_of_href {s : Store} {package name : String} (hextensions : o.extensions = [".node", ".bare"])
    (hsegment : Path.IsSegment (name ++ ".node").toList) (hlength : hosts.length = hosts'.length)
    (h : (o.binaryPlaces package name hosts).map (fun path => (s.url path).href) =
      (o.binaryPlaces package name hosts').map (fun path => (s.url path).href)) :
    List.Forall₂ (SameHostIn package) hosts hosts' := by
  induction hosts generalizing hosts' with
  | nil =>
    rw [List.eq_nil_of_length_eq_zero hlength.symm]
    exact .nil
  | cons host rest ih =>
    cases hosts' with
    | nil => cases hlength
    | cons host' rest' =>
      -- Each host has two places, and the first of them tells the directory.
      simp only [binaryPlaces, List.flatMap_cons, hextensions, List.map_cons, List.map_nil, List.cons_append,
        List.nil_append, List.cons.injEq] at h
      obtain ⟨hnode, -, hrest⟩ := h
      have hplace := Store.normalize_eq_of_href_url hnode
      rw [Path.normalize_normalize, Path.normalize_normalize] at hplace
      have hhost : SameHostIn package host host' := Path.normalize_eq_of_join hsegment hplace
      refine .cons hhost (ih (Nat.succ.inj hlength) ?_)
      rw [binaryPlaces, binaryPlaces, hextensions]
      exact hrest

end Outlook

/-! ### Answers -/

namespace Resolver

/-- An addon that names the package at a path, where there is no file at all, is looked for there and not found. -/
theorem outcome_standard_empty (scheme package : String) {targets : List String} {conditions : Conditions}
    (h : buildConditions targets = .ok conditions) :
    let e : Entry := ⟨Path.normalize package, true, false, false, false⟩
    let s := (MemoryStore.empty scheme).toStore
    let o := s.outlook [".node", ".bare"] (conditionMatrix (Plan.under e conditions).conditions)
    (standard s e none targets).outcome = .ok (.unresolved ⟨Plan.specifierOf e, none,
      (o.binaryPlaces (Path.normalize package) (Manifest.prebuildName (Path.normalize package) none) targets).map
        fun path => (s.url path).href⟩) := by
  intro e s o
  have hspecifier : Plan.specifierOf e = Path.normalize package := by
    obtain ⟨rest, hslash⟩ := Path.exists_toList_normalize package
    refine if_neg ?_
    rintro ⟨-, hempty⟩
    cases hslash.symm.trans (congrArg String.toList hempty)
  have hplaces : (Plan.under e conditions).places (Manifest.of? s) none targets =
      o.binaryPlaces (Path.normalize package) (Manifest.prebuildName (Path.normalize package) none) targets := by
    have haddon : (Plan.under e conditions).isAddon = true := rfl
    have hplan : (Plan.under e conditions).specifier = Path.normalize package := hspecifier
    rw [Plan.places, if_pos haddon, hplan]
    exact Outlook.addonPlaces_normalize (MemoryStore.of?_empty scheme) package (Resolution.baseOf none)
  rw [outcome_standard (MemoryStore.empty scheme).closed_toStore e none h, MemoryStore.firstOf_empty, hplaces]

section Conditions

variable {targets targets' : List String} {conditions : Conditions} (h : buildConditions targets = .ok conditions)
  (h' : buildConditions targets' = .ok conditions)

include h h'

/-- For all but addons the targets count only by their sets of conditions. -/
theorem outcome_eq_of_isAddon_eq_false (m : MemoryStore) {e : Entry} (he : e.isAddon = false) (referrer : Option Url) :
    (standard m.toStore e referrer targets).outcome = (standard m.toStore e referrer targets').outcome := by
  have hplan : (Plan.under e conditions).isAddon = false := by
    by_contra hplan
    have hkind : e.kind = .addon := by simpa [Plan.isAddon, Plan.under] using hplan
    cases he.symm.trans (Entry.isAddon_of_kind hkind)
  rw [outcome_standard m.closed_toStore e referrer h, outcome_standard m.closed_toStore e referrer h', Plan.places,
    Plan.places, hplan]
  rfl

/-- The same hosts lead to the same answers. -/
theorem outcome_eq_of_sameHost (hhosts : List.Forall₂ Addon.SameHost targets targets') (m : MemoryStore) (e : Entry)
    (referrer : Option Url) :
    (standard m.toStore e referrer targets).outcome = (standard m.toStore e referrer targets').outcome := by
  have hplaces : (Plan.under e conditions).places (Manifest.of? m.toStore) referrer targets =
      (Plan.under e conditions).places (Manifest.of? m.toStore) referrer targets' := by
    unfold Plan.places
    cases (Plan.under e conditions).isAddon with
    | false => rfl
    | true => exact Outlook.addonPlaces_congr _ _ _ hhosts
  rw [outcome_standard m.closed_toStore e referrer h, outcome_standard m.closed_toStore e referrer h', hplaces]

/-- An empty store tells hosts apart by the places at which it is looked for an addon. -/
theorem sameHostIn_of_outcome_eq (hlength : targets.length = targets'.length) {package : String}
    (houtcome : let e : Entry := ⟨Path.normalize package, true, false, false, false⟩
      (standard (MemoryStore.empty "drive").toStore e none targets).outcome =
        (standard (MemoryStore.empty "drive").toStore e none targets').outcome) :
    List.Forall₂ (Addon.SameHostIn package) targets targets' := by
  have hsegment : Path.IsSegment (Manifest.prebuildName (Path.normalize package) none ++ ".node").toList :=
    Manifest.isSegment_prebuildName_append (by simp) (by simp [Path.isSeparator]) (by decide)
  dsimp only at houtcome
  rw [outcome_standard_empty "drive" package h, outcome_standard_empty "drive" package h', Except.ok.injEq,
    Resolution.unresolved.injEq, Unresolved.mk.injEq] at houtcome
  have hnormalized := Outlook.forall₂_sameHostIn_of_href rfl hsegment hlength houtcome.2.2
  exact hnormalized.imp fun _ _ hhost => Addon.sameHostIn_normalize.1 hhost

end Conditions

/-- **The same targets lead to the same answers, but for addons.**  Let two lists hold pairwise the same targets.
Whatever is no addon has the same answer for both lists.  All addons have so just if the targets are pairwise the same
hosts: if they name, as they are written, the same directories of binaries.  If there are no blanks around the targets,
the two lists are one. -/
theorem standard_same {targets targets' : List String} (h : List.Forall₂ Target.Same targets targets') :
    (∀ (m : MemoryStore) (e : Entry) (referrer : Option Url), e.isAddon = false →
      (standard m.toStore e referrer targets).outcome = (standard m.toStore e referrer targets').outcome) ∧
    ((∀ (m : MemoryStore) (e : Entry) (referrer : Option Url),
        (standard m.toStore e referrer targets).outcome = (standard m.toStore e referrer targets').outcome) ↔
      List.Forall₂ Addon.SameHost targets targets') ∧
    ((∀ target ∈ targets ++ targets', Text.trimBlanks target.toList = target.toList) → targets = targets') := by
  obtain ⟨conditions, hconditions, hconditions'⟩ := exists_buildConditions_of_same h
  refine ⟨?_, ⟨?_, ?_⟩, Target.eq_of_forall₂_same h⟩
  · intro m e referrer he
    exact outcome_eq_of_isAddon_eq_false hconditions hconditions' m he referrer
  · intro hall
    refine Addon.forall₂_sameHost_iff.2 fun package => ?_
    exact sameHostIn_of_outcome_eq hconditions hconditions' h.length_eq (hall (MemoryStore.empty "drive") _ none)
  · exact outcome_eq_of_sameHost hconditions hconditions'

/-- The same target is written without a blank and with one. -/
theorem same_blank : List.Forall₂ Target.Same ["linux-x64"] [" linux-x64"] :=
  .cons ⟨⟨"linux", "x64"⟩, by decide +kernel, by decide +kernel⟩ .nil

/-- A blank does not matter for modules. -/
theorem standard_same_blank :
    List.Forall₂ Target.Same ["linux-x64"] [" linux-x64"] ∧
      ∀ (m : MemoryStore) (e : Entry) (referrer : Option Url), e.isAddon = false →
        (standard m.toStore e referrer ["linux-x64"]).outcome =
          (standard m.toStore e referrer [" linux-x64"]).outcome :=
  ⟨same_blank, (standard_same same_blank).1⟩

/-- A package with a binary for one host. -/
def prebuilt : MemoryStore := .ofFiles "drive"
  [("/package.json", Utf8.encode "\x7b\"name\":\"addon\"\x7d".toList), ("/prebuilds/linux-x64/addon.node", [])]

/-- The binary is found for the target without a blank, and not for the same target with a blank. -/
theorem standard_blank :
    List.Forall₂ Target.Same ["linux-x64"] [" linux-x64"] ∧
      (standard prebuilt.toStore ⟨"", true, false, true, false⟩ (some (prebuilt.toStore.url "/index.js"))
        ["linux-x64"]).outcome = .ok (.resolved (prebuilt.toStore.url "/prebuilds/linux-x64/addon.node")) ∧
      (standard prebuilt.toStore ⟨"", true, false, true, false⟩ (some (prebuilt.toStore.url "/index.js"))
        [" linux-x64"]).outcome ≠ .ok (.resolved (prebuilt.toStore.url "/prebuilds/linux-x64/addon.node")) := by
  have hplain : buildConditions ["linux-x64"] = .ok (Target.conditions ⟨"linux", "x64"⟩) := by cbv
  have hblank : buildConditions [" linux-x64"] = .ok (Target.conditions ⟨"linux", "x64"⟩) := by cbv
  refine ⟨same_blank, ?_⟩
  rw [outcome_standard prebuilt.closed_toStore _ _ hplain, outcome_standard prebuilt.closed_toStore _ _ hblank,
    Except.ok.injEq, ne_eq, Except.ok.injEq]
  decide +kernel

end Resolver

end ModuleReach
