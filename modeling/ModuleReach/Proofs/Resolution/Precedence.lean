import ModuleReach.Proofs.Resolution.Closed
import ModuleReach.Proofs.Store.Filled

/-!
# Further targets

Targets come in order of precedence.  When further ones are put after some targets, a search still looks
at all places of before in their order, and at new places after them.  There is one way for a new place to
come in between: the `imports` of a manifest lead to a package with `exports`.  All sets of conditions are
tried on these before the next set is tried on the `imports`, so the package may give out a file for a
later target although an earlier one still has a file to offer.

## Main definitions

* `Padded` — lists that come from others by putting elements in.
* `Outlook.adding` — an outlook with further sets of conditions.
* `Outlook.latePlaces`, `Plan.latePlaces` — the places that may come in between.

## Main results

* `Outlook.places_adding`, `Outlook.addonPlaces_adding` — what further sets of conditions do to the
  places.
* `Resolver.standard_append` — a specifier that is resolved for some targets is resolved to the same file
  for these and further targets, unless there is a file at a late place.
* `Resolver.overtaken_crossing` — such a file can take precedence.
-/

namespace ModuleReach

/-! ### Putting elements in -/

/-- Lists that come from other ones by putting in elements with a property. -/
inductive Padded {α : Type} (p : α → Prop) : List α → List α → Prop
  | nil : Padded p [] []
  | keep (a : α) {l l' : List α} : Padded p l l' → Padded p (a :: l) (a :: l')
  | pad {a : α} {l l' : List α} : p a → Padded p l l' → Padded p l (a :: l')

namespace Padded

variable {α β : Type} {p : α → Prop} {l l' m m' : List α}

theorem refl (p : α → Prop) (l : List α) : Padded p l l := by
  induction l with
  | nil => exact .nil
  | cons a l ih => exact .keep a ih

theorem append (h : Padded p l l') (hm : Padded p m m') : Padded p (l ++ m) (l' ++ m') := by
  induction h with
  | nil => exact hm
  | keep a _ ih => exact .keep a ih
  | pad ha _ ih => exact .pad ha ih

/-- Elements with the property may be put at the end. -/
theorem append_right (h : ∀ a ∈ m, p a) : Padded p l (l ++ m) := by
  have hm : Padded p [] m := by
    induction m with
    | nil => exact .nil
    | cons a m ih => exact .pad (h a List.mem_cons_self) (ih fun b hb => h b (List.mem_cons_of_mem _ hb))
  have happend := (refl p l).append hm
  rwa [List.append_nil] at happend

theorem flatMap {bs : List β} {f g : β → List α} (h : ∀ b ∈ bs, Padded p (f b) (g b)) :
    Padded p (bs.flatMap f) (bs.flatMap g) := by
  induction bs with
  | nil => exact .nil
  | cons b bs ih =>
    rw [List.flatMap_cons, List.flatMap_cons]
    exact (h b List.mem_cons_self).append (ih fun c hc => h c (List.mem_cons_of_mem _ hc))

/-- What is found in a list is found in one with more elements, unless one that was put in is found before
it. -/
theorem find?_eq_some (h : Padded p l l') {q : α → Bool} {a : α} (ha : l.find? q = some a) :
    ∃ a', l'.find? q = some a' ∧ (a' = a ∨ p a') := by
  induction h with
  | nil => cases ha
  | keep b _ ih =>
    rw [List.find?_cons] at ha ⊢
    cases hb : q b with
    | true =>
      rw [hb] at ha
      cases ha
      exact ⟨a, rfl, .inl rfl⟩
    | false =>
      rw [hb] at ha
      exact ih ha
  | @pad b _ _ hp _ ih =>
    rw [List.find?_cons]
    cases hb : q b with
    | true => exact ⟨b, rfl, .inr hp⟩
    | false => exact ih ha

end Padded

/-! ### Places -/

namespace Outlook

open Manifest (matchSubpath)
open Search (packageDirectory packageBases)

variable (o : Outlook) (more : Conditions)

/-- The outlook with further sets of conditions after its own. -/
def adding : Outlook := { o with matrix := o.matrix ++ more }

/-- The outlook with other sets of conditions. -/
def under : Outlook := { o with matrix := more }

/-- The first package of a name, below some directories, that has `exports`. -/
def exporter? (ref : Specifier.PackageRef) (directories : List String) : Option (String × Json) :=
  directories.findSome? fun directory =>
    ((o.manifest? (packageDirectory directory ref.name)).bind (·.field? "exports")).map
      (packageDirectory directory ref.name, ·)

/-- The places that the `exports` of a package give under further sets of conditions. -/
def latePlacesFrom (ref : Specifier.PackageRef) (directories : List String) : List String :=
  match o.exporter? ref directories with
  | none => []
  | some (package, exports) => (o.under more).exportPlaces exports package ref.subpath

/-- The places that a target of `imports` gives under further sets of conditions: those that a package
exports. -/
def lateTargetPlaces (directory target : String) : List String :=
  if Specifier.isPath target then []
  else
    match Specifier.package? target with
    | none => []
    | some ref => o.latePlacesFrom more ref (packageBases directory)

/-- The places that all targets which the `imports` of a scope give for a specifier give under further
sets of conditions. -/
def lateImportPlaces (specifier : String) : Option (String × Manifest) → List String
  | none => []
  | some (directory, manifest) =>
    match manifest.imports? with
    | some imports =>
      o.matrix.flatMap fun conditions =>
        (matchSubpath imports specifier conditions).flatMap (o.lateTargetPlaces more directory)
    | none => []

/-- The places for further sets of conditions that may come before places for the outlook's own. -/
def latePlaces (specifier directory : String) : List String :=
  if Specifier.isInternal specifier then o.lateImportPlaces more specifier (o.scope? directory) else []

variable {o more}

@[simp] theorem manifest?_adding : (o.adding more).manifest? = o.manifest? := rfl

@[simp] theorem scope?_adding (directory : String) :
    (o.adding more).scope? directory = o.scope? directory := rfl

theorem exportPlaces_adding (exports : Json) (package subpath : String) :
    (o.adding more).exportPlaces exports package subpath =
      o.exportPlaces exports package subpath ++ (o.under more).exportPlaces exports package subpath :=
  List.flatMap_append

/-- Further sets of conditions give a package further places after all others. -/
theorem packagePlacesFrom_adding (ref : Specifier.PackageRef) (directories : List String) :
    (o.adding more).packagePlacesFrom ref directories =
      o.packagePlacesFrom ref directories ++ o.latePlacesFrom more ref directories := by
  induction directories with
  | nil => rfl
  | cons directory rest ih =>
    have hopen : (o.adding more).openPlaces (packageDirectory directory ref.name) ref.subpath =
        o.openPlaces (packageDirectory directory ref.name) ref.subpath := rfl
    rw [packagePlacesFrom, packagePlacesFrom, latePlacesFrom, exporter?, List.findSome?_cons,
      manifest?_adding]
    cases (o.manifest? (packageDirectory directory ref.name)).bind (·.field? "exports") with
    | some exports => exact exportPlaces_adding _ _ _
    | none =>
      dsimp only [Option.map_none]
      rw [ih, hopen, List.append_assoc]
      rfl

/-- A target of `imports` has its places of before first, and then the late ones. -/
theorem importTargetPlaces_adding (directory target : String) :
    (o.adding more).importTargetPlaces directory target =
      o.importTargetPlaces directory target ++ o.lateTargetPlaces more directory target := by
  unfold importTargetPlaces lateTargetPlaces packagePlaces
  cases Specifier.isPath target with
  | true => rfl
  | false =>
    cases Specifier.package? target with
    | none => rfl
    | some ref => exact packagePlacesFrom_adding ref (packageBases directory)

/-- The places for `imports` under the first sets of conditions come before those under further sets, with
late places put in. -/
theorem importPlacesIn_adding (specifier : String) (scope : Option (String × Manifest)) :
    ∃ padded rest, (o.adding more).importPlacesIn specifier scope = padded ++ rest ∧
      Padded (· ∈ o.lateImportPlaces more specifier scope) (o.importPlacesIn specifier scope) padded := by
  unfold importPlacesIn lateImportPlaces
  rcases scope with - | ⟨directory, manifest⟩
  · exact ⟨[], [], rfl, .nil⟩
  · dsimp only
    cases manifest.imports? with
    | none => exact ⟨[], [], rfl, .nil⟩
    | some imports =>
      refine ⟨_, _, List.flatMap_append, ?_⟩
      refine Padded.flatMap fun conditions hconditions => Padded.flatMap fun target htarget => ?_
      rw [importTargetPlaces_adding]
      refine Padded.append_right fun path hpath => ?_
      exact List.mem_flatMap.2 ⟨conditions, hconditions, List.mem_flatMap.2 ⟨target, htarget, hpath⟩⟩

/-- The places for a module come first, with late places put in. -/
theorem places_adding (specifier directory : String) :
    ∃ padded rest, (o.adding more).places specifier directory = padded ++ rest ∧
      Padded (· ∈ o.latePlaces more specifier directory) (o.places specifier directory) padded := by
  unfold places latePlaces
  cases Specifier.isPath specifier with
  | true => exact ⟨_, [], (List.append_nil _).symm, Padded.refl _ _⟩
  | false =>
    cases Specifier.isInternal specifier with
    | true => exact importPlacesIn_adding specifier (o.scope? directory)
    | false =>
      unfold packagePlaces
      cases Specifier.package? specifier with
      | none => exact ⟨[], [], rfl, .nil⟩
      | some ref => exact ⟨_, _, packagePlacesFrom_adding ref (packageBases directory), Padded.refl _ _⟩

/-- The first target of `imports` under some sets of conditions stays the first. -/
theorem firstImport?_append {imports : List (String × Json)} {specifier target : String}
    {matrix : Conditions} (h : Addon.firstImport? imports specifier matrix = some target) :
    Addon.firstImport? imports specifier (matrix ++ more) = some target := by
  induction matrix with
  | nil => cases h
  | cons conditions rest ih =>
    rw [List.cons_append, Addon.firstImport?]
    rw [Addon.firstImport?] at h
    split
    · rename_i first _ hmatch
      rw [hmatch] at h
      exact h
    · rename_i hmatch
      rw [hmatch] at h
      exact ih h

/-- The target of a `#` specifier under some sets of conditions stays its target. -/
theorem remap?_adding {specifier base : String} {found : String × String}
    (h : o.remap? specifier base = some found) : (o.adding more).remap? specifier base = some found := by
  unfold remap? at h ⊢
  obtain ⟨scope, hscope, hfound⟩ := Option.bind_eq_some_iff.1 h
  obtain ⟨target, htarget, rfl⟩ := Option.map_eq_some_iff.1 hfound
  obtain ⟨imports, himports, hfirst⟩ := Option.bind_eq_some_iff.1 htarget
  have hfirst' : Addon.firstImport? imports specifier (o.adding more).matrix = some target :=
    firstImport?_append hfirst
  rw [scope?_adding, hscope, Option.bind_some, himports, Option.bind_some, hfirst', Option.map_some]

/-- Further hosts give the package that a specifier names further places after all others. -/
theorem ownPlaces_adding (specifier base : String) (hosts others : List String) :
    (o.adding more).ownPlaces specifier base (hosts ++ others) =
      o.ownPlaces specifier base hosts ++ o.ownPlaces specifier base others := by
  have hpackage : (o.adding more).package? specifier base = o.package? specifier base := by
    simp only [package?, scope?_adding, manifest?_adding]
  unfold ownPlaces
  rw [hpackage]
  rcases o.package? specifier base with - | ⟨directory, manifest⟩
  · rfl
  · exact List.flatMap_append

/-- The places for an addon come first. -/
theorem addonPlaces_adding (more : Conditions) (specifier base : String)
    (hosts others : List String) :
    ∃ rest, (o.adding more).addonPlaces specifier base (hosts ++ others) =
      o.addonPlaces specifier base hosts ++ rest := by
  unfold addonPlaces
  cases Specifier.isInternal specifier with
  | false => exact ⟨_, ownPlaces_adding specifier base hosts others⟩
  | true =>
    cases hremap : o.remap? specifier base with
    | none => exact ⟨_, rfl⟩
    | some found =>
      obtain ⟨target, directory⟩ := found
      rw [if_pos rfl, if_pos rfl, remap?_adding hremap]
      exact ⟨_, ownPlaces_adding target directory hosts others⟩

end Outlook

/-! ### Sets of conditions -/

/-- Further targets give further sets of conditions. -/
theorem buildConditions_append {first more : List String} {conditions others : Conditions}
    (hfirst : buildConditions first = .ok conditions) (hmore : buildConditions more = .ok others) :
    buildConditions (first ++ more) = .ok (conditions ++ others) := by
  induction first generalizing conditions with
  | nil =>
    cases hfirst
    exact hmore
  | cons text rest ih =>
    obtain ⟨target, conditions', htarget, hrest, rfl⟩ := buildConditions_cons.1 hfirst
    rw [List.cons_append, List.append_assoc]
    exact buildConditions_cons.2 ⟨target, _, htarget, ih hrest, rfl⟩

/-- Some targets give some sets of conditions. -/
theorem ne_nil_of_buildConditions {targets : List String} {conditions : Conditions}
    (hne : targets ≠ []) (h : buildConditions targets = .ok conditions) : conditions ≠ [] := by
  cases targets with
  | nil => exact absurd rfl hne
  | cons text rest =>
    obtain ⟨target, others, -, -, rfl⟩ := buildConditions_cons.1 h
    exact List.cons_ne_nil _ _

theorem conditionMatrix_of_ne_nil {conditions : Conditions} (h : conditions ≠ []) :
    conditionMatrix conditions = conditions := if_neg h

/-! ### Plans -/

namespace Plan

/-- The places for further sets of conditions that may come before places for a plan's own. -/
def latePlaces (p : Plan) (manifest? : String → Option Manifest) (referrer : Option Url)
    (more : Conditions) : List String :=
  let o : Outlook := ⟨manifest?, p.extensions.getD [], conditionMatrix p.conditions⟩
  if p.isAddon then [] else o.latePlaces more p.specifier (Resolution.baseOf referrer)

theorem conditions_under_append (e : Entry) (conditions others : Conditions) :
    (under e (conditions ++ others)).conditions =
      (under e conditions).conditions ++ (under e others).conditions := List.map_append

/-- The places for the specifier of an entry come first, with late places put in. -/
theorem places_append {e : Entry} {conditions : Conditions} (hne : conditions ≠ [])
    (others : Conditions) (manifest? : String → Option Manifest) (referrer : Option Url)
    (first more : List String) :
    ∃ padded rest, (under e (conditions ++ others)).places manifest? referrer (first ++ more) =
        padded ++ rest ∧
      Padded (· ∈ (under e conditions).latePlaces manifest? referrer (under e others).conditions)
        ((under e conditions).places manifest? referrer first) padded := by
  have hown : (under e conditions).conditions ≠ [] := by simpa [under] using hne
  have hall : (under e (conditions ++ others)).conditions ≠ [] := by
    rw [conditions_under_append]
    exact List.append_ne_nil_of_left_ne_nil hown _
  have hkind : (under e (conditions ++ others)).isAddon = (under e conditions).isAddon := rfl
  let o : Outlook := ⟨manifest?, (extensionsOf e.kind).getD [], (under e conditions).conditions⟩
  unfold places latePlaces
  rw [conditionMatrix_of_ne_nil hown, conditionMatrix_of_ne_nil hall, conditions_under_append, hkind]
  cases (under e conditions).isAddon with
  | true =>
    obtain ⟨rest, hrest⟩ := o.addonPlaces_adding (under e others).conditions (specifierOf e)
      (Resolution.baseOf referrer) first more
    exact ⟨_, rest, hrest, Padded.refl _ _⟩
  | false => exact o.places_adding (specifierOf e) (Resolution.baseOf referrer)

end Plan

/-! ### Answers -/

/-- The file that is found first stays the answer if more places are put in or put after, unless there is
a file at one of those put in. -/
theorem Resolution.firstOf_padded {s : Store} {specifier : String} {referrer : Option Url}
    {p : String → Prop} {places padded : List String} (h : Padded p places padded) {url : Url}
    (hurl : firstOf s specifier referrer places = .resolved url) (rest : List String) :
    firstOf s specifier referrer (padded ++ rest) = .resolved url ∨
      ∃ path, p path ∧ s.has path = true ∧
        firstOf s specifier referrer (padded ++ rest) = .resolved (s.url path) := by
  unfold firstOf at hurl ⊢
  cases hfind : places.find? s.has with
  | none =>
    rw [hfind] at hurl
    cases hurl
  | some path =>
    rw [hfind] at hurl
    cases hurl
    obtain ⟨path', hpath', hlate⟩ := h.find?_eq_some hfind
    have hhas : s.has path' = true := List.find?_some hpath'
    rw [List.find?_append, hpath', Option.some_or]
    rcases hlate with rfl | hlate
    · exact .inl rfl
    · exact .inr ⟨path', hlate, hhas, rfl⟩

namespace Resolver

/-- The places for further targets that may come before places for some targets. -/
def latePlaces (s : Store) (e : Entry) (referrer : Option Url) (first more : List String) :
    List String :=
  match Plan.ofEntry e first, Plan.ofEntry e more with
  | .ok p, .ok q => p.latePlaces (Manifest.of? s) referrer q.conditions
  | _, _ => []

theorem latePlaces_eq (s : Store) (e : Entry) (referrer : Option Url) {first more : List String}
    {conditions others : Conditions} (hfirst : buildConditions first = .ok conditions)
    (hmore : buildConditions more = .ok others) :
    latePlaces s e referrer first more = (Plan.under e conditions).latePlaces (Manifest.of? s)
      referrer (Plan.under e others).conditions := by
  unfold latePlaces Plan.ofEntry
  rw [hfirst, hmore]
  rfl

/-- **Earlier targets win, but for exports behind imports.**  If a specifier is resolved for some targets,
then it is resolved for these and any further targets, and to the same file unless there is a file at a
late place: one that a package, to which the `imports` of the nearest manifest lead, exports for a further
target. -/
theorem standard_append (m : MemoryStore) (e : Entry) (referrer : Option Url)
    {first more : List String} (hne : first ≠ [])
    (hfirst : ∀ target ∈ first, (Target.parse? target).isSome)
    (hmore : ∀ target ∈ more, (Target.parse? target).isSome) {url : Url}
    (h : (standard m.toStore e referrer first).outcome = .ok (.resolved url)) :
    (standard m.toStore e referrer (first ++ more)).outcome = .ok (.resolved url) ∨
      ∃ path ∈ latePlaces m.toStore e referrer first more, m.toStore.has path = true ∧
        (standard m.toStore e referrer (first ++ more)).outcome =
          .ok (.resolved (m.toStore.url path)) := by
  obtain ⟨conditions, hconditions⟩ := exists_buildConditions hfirst
  obtain ⟨others, hothers⟩ := exists_buildConditions hmore
  have hall := buildConditions_append hconditions hothers
  have hs : m.toStore.Closed := m.closed_toStore
  rw [outcome_standard hs e referrer hconditions, Except.ok.injEq] at h
  rw [outcome_standard hs e referrer hall, latePlaces_eq _ e referrer hconditions hothers]
  obtain ⟨padded, rest, hplaces, hpadded⟩ := Plan.places_append
    (ne_nil_of_buildConditions hne hconditions) others (Manifest.of? m.toStore) referrer first more
  rw [hplaces]
  rcases Resolution.firstOf_padded hpadded h rest with hsame | ⟨path, hlate, hhas, hpath⟩
  · exact .inl (congrArg Except.ok hsame)
  · exact .inr ⟨path, hlate, hhas, congrArg Except.ok hpath⟩

/-! ### A manifest that names itself -/

/-- A manifest that maps a name to itself for one system. -/
def selfImport : Bytes := Utf8.encode "\x7b\"imports\":\x7b\"#x\":\x7b\"linux\":\"./package.json\"\x7d\x7d\x7d".toList

/-- A program that is only this manifest. -/
def selfImporting : MemoryStore := (MemoryStore.empty "drive").put "/package.json" selfImport

theorem of?_selfImporting : Manifest.of? selfImporting.toStore = fun directory =>
    if Path.normalize "/package.json" = Path.normalize (Manifest.path directory) then
      Manifest.parse? selfImport
    else none := by
  funext directory
  rw [Manifest.of?, selfImporting, MemoryStore.content?_put_empty]
  by_cases h : Path.normalize "/package.json" = Path.normalize (Manifest.path directory)
  · rw [if_pos h, if_pos h, Option.bind_some]
  · rw [if_neg h, if_neg h, Option.bind_none]

/-- The name is resolved for the system, and still is if another system is put after it. -/
theorem standard_append_selfImporting :
    (standard selfImporting.toStore ⟨"#x", false, false, true, false⟩ none ["linux-x64"]).outcome =
        .ok (.resolved (selfImporting.toStore.url "/package.json")) ∧
      (standard selfImporting.toStore ⟨"#x", false, false, true, false⟩ none
        (["linux-x64"] ++ ["win32-x64"])).outcome =
          .ok (.resolved (selfImporting.toStore.url "/package.json")) := by
  have hlinux : buildConditions ["linux-x64"] = .ok (Target.conditions ⟨"linux", "x64"⟩) := by cbv
  have hwin32 : buildConditions ["win32-x64"] = .ok (Target.conditions ⟨"win32", "x64"⟩) := by cbv
  have hhas : selfImporting.toStore.has "/package.json" = true := MemoryStore.has_put _ _ _
  have hfirst : (standard selfImporting.toStore ⟨"#x", false, false, true, false⟩ none
      ["linux-x64"]).outcome = .ok (.resolved (selfImporting.toStore.url "/package.json")) := by
    have hplaces : (Plan.under ⟨"#x", false, false, true, false⟩ (Target.conditions ⟨"linux", "x64"⟩)).places
        (fun directory =>
          if Path.normalize "/package.json" = Path.normalize (Manifest.path directory) then
            Manifest.parse? selfImport
          else none) none ["linux-x64"] =
        ["/package.json", "/package.json", "/package.json"] := by
      decide +kernel
    rw [outcome_standard selfImporting.closed_toStore _ _ hlinux, of?_selfImporting, hplaces,
      Resolution.firstOf, List.find?_cons_of_pos hhas]
  refine ⟨hfirst, ?_⟩
  have hsome : ∀ target ∈ ["linux-x64"], (Target.parse? target).isSome := by decide +kernel
  have hmore : ∀ target ∈ ["win32-x64"], (Target.parse? target).isSome := by decide +kernel
  rcases standard_append selfImporting ⟨"#x", false, false, true, false⟩ none
    (List.cons_ne_nil _ _) hsome hmore hfirst with hall | ⟨path, hlate, -⟩
  · exact hall
  · -- The name leads to a path and to no package, so no place is late.
    have hnone : latePlaces selfImporting.toStore ⟨"#x", false, false, true, false⟩ none ["linux-x64"]
        ["win32-x64"] = [] := by
      rw [latePlaces_eq _ _ _ hlinux hwin32, of?_selfImporting]
      decide +kernel
    rw [hnone] at hlate
    cases hlate

/-! ### A package that is overtaken -/

/-- A program whose `imports` lead first to a package that exports a file for one system only, and then to
a file of its own. -/
def crossing : MemoryStore := .ofFiles "drive"
  [("/package.json", Utf8.encode
      "\x7b\"imports\":\x7b\"#x\":\x7b\"node\":\"pkg\",\"module\":\"./own.js\"\x7d\x7d\x7d".toList),
    ("/node_modules/pkg/package.json", Utf8.encode "\x7b\"exports\":\x7b\"win32\":\"./win.js\"\x7d\x7d".toList),
    ("/node_modules/pkg/win.js", []), ("/own.js", [])]

/-- The program's own file is the answer for the first system alone, and no longer if the package's system
is put after it. -/
theorem overtaken_crossing :
    (∀ target ∈ ["linux-x64", "win32-x64"], (Target.parse? target).isSome) ∧
      (standard crossing.toStore ⟨"#x", false, false, true, false⟩
        (some (crossing.toStore.url "/index.js")) ["linux-x64"]).outcome =
          .ok (.resolved (crossing.toStore.url "/own.js")) ∧
      (standard crossing.toStore ⟨"#x", false, false, true, false⟩
        (some (crossing.toStore.url "/index.js")) (["linux-x64"] ++ ["win32-x64"])).outcome ≠
          .ok (.resolved (crossing.toStore.url "/own.js")) := by
  have hlinux : buildConditions ["linux-x64"] = .ok (Target.conditions ⟨"linux", "x64"⟩) := by cbv
  have hboth : buildConditions (["linux-x64"] ++ ["win32-x64"]) =
      .ok (Target.conditions ⟨"linux", "x64"⟩ ++ Target.conditions ⟨"win32", "x64"⟩) := by cbv
  rw [outcome_standard crossing.closed_toStore _ _ hlinux,
    outcome_standard crossing.closed_toStore _ _ hboth, Except.ok.injEq, ne_eq, Except.ok.injEq]
  decide +kernel

end Resolver

end ModuleReach
