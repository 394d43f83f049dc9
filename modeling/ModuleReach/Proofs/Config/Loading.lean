import ModuleReach.Proofs.Config.Failure

/-!
# What a configuration file changes

A configuration file says which of the two lists of a configuration it replaces and which names it adds to the builtins that
are active then.  A list that is given replaces one also if it is empty, and a key that is missing or holds nothing gives no
list.  Only names that are not yet builtins are added, so that a file which is read on top of what it gave changes nothing.
All this holds for every reader of documents.

## Main definitions

* `Config.Gives` — what a mapping gives at a key.
* `Config.Extends` — the configurations that some lists make of others.
* `Config.Holds` — the entries of the mapping in a file.

## Main results

* `Config.ofEntries_eq_ok_iff` — the configuration that a mapping describes.
* `Config.Extends.again` — extending a configuration once more changes nothing.
* `Config.load_again` — what a file changes, and that it changes nothing the second time.
-/

namespace ModuleReach.Config

open Yaml (Value)

/-! ### What a mapping gives -/

/-- What a mapping gives at a key: no list if the key is missing or holds nothing, and a list of texts otherwise. -/
inductive Gives (entries : List (Value × Value)) (key : String) : Option (List String) → Prop
  | missing (h : Value.lookup key entries = none) : Gives entries key none
  | nothing (h : Value.lookup key entries = some .null) : Gives entries key none
  | names (names : List String) (h : Value.lookup key entries = some (.list (names.map .text))) :
    Gives entries key (some names)

theorem textsOf?_eq_some_iff {items : List Value} {names : List String} :
    textsOf? items = some names ↔ items = names.map .text := by
  induction items generalizing names with
  | nil => cases names <;> simp [textsOf?]
  | cons item rest ih =>
    cases item with
    | text s =>
      rw [textsOf?, Option.map_eq_some_iff]
      constructor
      · rintro ⟨others, hothers, rfl⟩
        rw [ih.1 hothers, List.map_cons]
      · intro h
        obtain ⟨name, others, rfl, hname, hothers⟩ := List.map_eq_cons_iff.1 h.symm
        cases hname
        exact ⟨others, ih.2 hothers.symm, rfl⟩
    | null => cases names <;> simp [textsOf?]
    | list items => cases names <;> simp [textsOf?]
    | mapping entries => cases names <;> simp [textsOf?]
    | other => cases names <;> simp [textsOf?]

theorem stringList_eq_ok_iff {path key : String} {entries : List (Value × Value)} {given : Option (List String)} :
    stringList path entries key = .ok given ↔ Gives entries key given := by
  constructor
  · intro h
    unfold stringList at h
    split at h
    · rename_i hlookup
      cases h
      exact .missing hlookup
    · rename_i hlookup
      cases h
      exact .nothing hlookup
    · rename_i items hlookup
      split at h
      · rename_i names hnames
        cases h
        exact .names names (textsOf?_eq_some_iff.1 hnames ▸ hlookup)
      · cases h
    · cases h
  · intro h
    cases h with
    | missing hlookup => rw [stringList, hlookup]
    | nothing hlookup => rw [stringList, hlookup]
    | names names hlookup =>
      have hnames : textsOf? (names.map .text) = some names := textsOf?_eq_some_iff.2 rfl
      rw [stringList, hlookup]
      dsimp only
      rw [hnames]

/-! ### What some lists make of a configuration -/

/-- A configuration that some lists, each of which may be missing, make of another one. -/
structure Extends (builtins extra targets : Option (List String)) (base c : Config) : Prop where
  /-- The builtins are those that replace the base's, or else the base's, and behind them the further names that are not
  among them. -/
  builtins_eq : c.builtins =
    builtins.getD base.builtins ++ (extra.getD []).filter fun name => name ∉ builtins.getD base.builtins
  targets_eq : c.targets = targets.getD base.targets

section Extends

variable {builtins extra targets : Option (List String)} {base c : Config}

/-- All further names are builtins then. -/
theorem Extends.mem_builtins (h : Extends builtins extra targets base c) :
    ∀ name ∈ extra.getD [], name ∈ c.builtins := by
  intro name hname
  rw [h.builtins_eq, List.mem_append, List.mem_filter]
  by_cases hmem : name ∈ builtins.getD base.builtins
  · exact .inl hmem
  · exact .inr ⟨hname, decide_eq_true hmem⟩

/-- Extending what the lists gave changes nothing. -/
theorem Extends.again (h : Extends builtins extra targets base c) : Extends builtins extra targets c c where
  builtins_eq := by
    cases builtins with
    | some names => exact h.builtins_eq
    | none =>
      -- No name is left to be added.
      have hnone : (extra.getD []).filter (fun name => name ∉ c.builtins) = [] :=
        List.filter_eq_nil_iff.2 fun name hname => by simpa using h.mem_builtins name hname
      rw [Option.getD_none, hnone, List.append_nil]
  targets_eq := by
    cases targets with
    | some names => exact h.targets_eq
    | none => rfl

/-- The configuration with two lists has just these. -/
theorem make_eq_ok_iff {names others : List String} :
    make names others = .ok c ↔ c.builtins = names ∧ c.targets = others := by
  unfold make
  split
  · rename_i target hinvalid
    refine iff_of_false (by simp) ?_
    rintro ⟨-, rfl⟩
    have hvalid := c.targets_valid target (List.mem_of_find?_eq_some hinvalid)
    have hunread := List.find?_some hinvalid
    rw [Option.isNone_iff_eq_none] at hunread
    simp [hunread] at hvalid
  · obtain ⟨names', others', hvalid⟩ := c
    simp [eq_comm]

theorem getD_requestedBuiltins :
    (base.requestedBuiltins builtins extra).getD base.builtins = extend (builtins.getD base.builtins) (extra.getD []) := by
  unfold requestedBuiltins
  split
  · rfl
  · rename_i hextra
    have hnone : extra.getD [] = [] := by
      cases extra with
      | none => rfl
      | some names =>
        cases names with
        | nil => rfl
        | cons name rest => exact absurd rfl (hextra name rest)
    rw [hnone, extend, List.filter_nil, List.append_nil]

theorem override_eq_ok_iff :
    (base.override (base.requestedBuiltins builtins extra) targets).mapError Fault.config = .ok c ↔
      Extends builtins extra targets base c := by
  have hmap : ∀ outcome : Except ConfigFault Config, outcome.mapError Fault.config = .ok c ↔ outcome = .ok c := by
    intro outcome
    cases outcome <;> simp [Except.mapError]
  rw [hmap, override, getD_requestedBuiltins, make_eq_ok_iff]
  exact ⟨fun h => ⟨h.1, h.2⟩, fun h => ⟨h.builtins_eq, h.targets_eq⟩⟩

/-- **What a mapping describes.**  A mapping without unknown keys, which gives lists of texts or nothing at the known ones,
describes the configuration that these lists make of the base; and every configuration that it describes is of this kind. -/
theorem ofEntries_eq_ok_iff {path : String} {entries : List (Value × Value)} :
    ofEntries path entries base = .ok c ↔ unknownKeys entries = .ok [] ∧ ∃ builtins extra targets,
      Gives entries "builtins" builtins ∧ Gives entries "extra_builtins" extra ∧ Gives entries "targets" targets ∧
        Extends builtins extra targets base c := by
  have hbind : ∀ {α : Type} (first : Except Fault α) (rest : α → Except Fault Config),
      first >>= rest = .ok c ↔ ∃ a, first = .ok a ∧ rest a = .ok c := by
    intro α first rest
    cases first <;> simp [bind, Except.bind]
  have hknown : ∀ (unknown : List String) (rest : Except Fault Config),
      (if unknown ≠ [] then .error (.config (.unknownKeys path unknown)) else rest) = .ok c ↔
        unknown = [] ∧ rest = .ok c := by
    intro unknown rest
    by_cases hunknown : unknown = [] <;> simp [hunknown]
  have hgives : ∀ key given, Gives entries key given ↔ stringList path entries key = .ok given :=
    fun key given => stringList_eq_ok_iff.symm
  simp only [hgives, ← override_eq_ok_iff, ofEntries, hbind, hknown]
  constructor
  · rintro ⟨unknown, hunknown, rfl, builtins, hbuiltins, extra, hextra, targets, htargets, hc⟩
    exact ⟨hunknown, builtins, extra, targets, hbuiltins, hextra, htargets, hc⟩
  · rintro ⟨hunknown, builtins, extra, targets, hbuiltins, hextra, htargets, hc⟩
    exact ⟨[], hunknown, rfl, builtins, hbuiltins, extra, hextra, targets, htargets, hc⟩

end Extends

/-! ### Files -/

/-- The entries of the mapping in a file, seen from a location; a file in which nothing is written has none. -/
def Holds (read : Yaml.Reader) (tree : FileTree) (here : Location) (path : String) (entries : List (Value × Value)) : Prop :=
  ∃ content text value, tree.read here (Path.tidy path) = .ok content ∧ Utf8.decode content = .ok text ∧
    read (unifyLineEnds text) = .ok value ∧ (value = .mapping entries ∨ value = .null ∧ entries = [])

/-- A file describes what its entries describe. -/
theorem load_eq_ok_iff {read : Yaml.Reader} {tree : FileTree} {here : Location} {path : String} {base c : Config} :
    load tree here path base read = .ok c ↔
      ∃ entries, Holds read tree here path entries ∧ ofEntries (Path.tidy path) entries base = .ok c := by
  have hvalue : ∀ value, ofValue (Path.tidy path) value base = .ok c ↔ ∃ entries,
      (value = .mapping entries ∨ value = .null ∧ entries = []) ∧ ofEntries (Path.tidy path) entries base = .ok c := by
    intro value
    cases value <;> simp [ofValue]
  rw [load]
  cases hread : tree.read here (Path.tidy path) with
  | error cause => simp [Holds, hread]
  | ok content =>
    cases hdecode : Utf8.decode content with
    | error mistake => simp [Holds, hread, hdecode, ofBytes]
    | ok text =>
      cases hdocument : read (unifyLineEnds text) with
      | error fault => cases fault <;> simp [Holds, hread, hdecode, hdocument, ofBytes]
      | ok value =>
        simp [Holds, hread, hdecode, hdocument, hvalue, ofBytes]

/-- **What a file changes, and that it does so only once.**  Whatever reader of documents is used, if a configuration is read
from a file on top of a base, it is also read from the file on top of itself.  Its builtins begin with those that the file
gives, if it gives some or an empty list, and with those of the base if it does not; behind them are the further names in
the file that are not among these, in their order, and every further name is a builtin.  Its targets are those that the
file gives, if it gives a list, and those of the base if it does not. -/
theorem load_again {read : Yaml.Reader} {tree : FileTree} {here : Location} {path : String} {base c : Config}
    (h : load tree here path base read = .ok c) :
    load tree here path c read = .ok c ∧
    ∃ entries builtins extra targets, Holds read tree here path entries ∧
      Gives entries "builtins" builtins ∧ Gives entries "extra_builtins" extra ∧ Gives entries "targets" targets ∧
      c.builtins =
        builtins.getD base.builtins ++ (extra.getD []).filter (fun name => name ∉ builtins.getD base.builtins) ∧
      (∀ name ∈ extra.getD [], name ∈ c.builtins) ∧
      c.targets = targets.getD base.targets := by
  obtain ⟨entries, hentries, hc⟩ := load_eq_ok_iff.1 h
  obtain ⟨hknown, builtins, extra, targets, hbuiltins, hextra, htargets, hextends⟩ := ofEntries_eq_ok_iff.1 hc
  constructor
  · refine load_eq_ok_iff.2 ⟨entries, hentries, ofEntries_eq_ok_iff.2 ?_⟩
    exact ⟨hknown, builtins, extra, targets, hbuiltins, hextra, htargets, hextends.again⟩
  · exact ⟨entries, builtins, extra, targets, hentries, hbuiltins, hextra, htargets, hextends.builtins_eq,
      hextends.mem_builtins, hextends.targets_eq⟩

/-- For instance, a file that gives a builtin of its own again and another name twice, and has no targets. -/
theorem load_again_repeated :
    let tree := single (Utf8.encode "builtins: [a]\nextra_builtins: [a, b, b]\ntargets:".toList)
    let c : Config := ⟨["a", "b", "b"], standard.targets, standard.targets_valid⟩
    load tree [] "c.yaml" standard Yaml.read = .ok c ∧ load tree [] "c.yaml" c Yaml.read = .ok c := by
  intro tree c
  have hload : load tree [] "c.yaml" standard Yaml.read = .ok c := by
    have hlists : (ofBytes (Path.tidy "c.yaml")
        (Utf8.encode "builtins: [a]\nextra_builtins: [a, b, b]\ntargets:".toList) standard Yaml.read).toOption.map
          (fun found => (found.builtins, found.targets)) = some (c.builtins, c.targets) := by decide +kernel
    rw [load, read_single]
    dsimp only
    cases hfound : ofBytes (Path.tidy "c.yaml")
        (Utf8.encode "builtins: [a]\nextra_builtins: [a, b, b]\ntargets:".toList) standard Yaml.read with
    | error cause =>
      rw [hfound] at hlists
      cases hlists
    | ok found =>
      obtain ⟨builtins, targets, hvalid⟩ := found
      rw [hfound] at hlists
      cases hlists
      rfl
  exact ⟨hload, (load_again hload).1⟩

end ModuleReach.Config
