import Mathlib
import ModuleReach.Config.Document
import ModuleReach.Proofs.Text.WellFormed
import ModuleReach.Yaml.Value

/-!
# What is wrong with a configuration file

Reading a configuration file gives a configuration, or the fault of a configuration that says what is wrong with the
file.  Two kinds of contents are not told apart in this way and end in other faults: bytes that are no text, and a mapping
with a key that is no text.  This holds for every reader of documents that gives a value or refuses the text.

## Main definitions

* `Yaml.Reader.GivesValues` — the readers for which every document has a value; `Yaml.Reader.refusing` makes one of each.
* `Config.Foreseen` — the outcomes of reading that a caller is told to expect.
* `Config.Legible` — the contents that belong to neither of the two kinds.

## Main results

* `Config.unknownKeys_cases` — which keys cannot be reported.
* `Config.load_foreseen_iff` — the files that are read to an expected end.
* `Config.load_illegible` — bytes that are no text, and a key that is no text, have another end.
-/

namespace ModuleReach

/-! ### Readers of documents -/

namespace Yaml.Reader

/-- A reader that gives a value or refuses the text: no scalar in a document lacks a value. -/
def GivesValues (read : Reader) : Prop := ∀ text cause, read text ≠ .error (.scalar cause)

/-- The reader that refuses also the documents in which a scalar has no value. -/
def refusing (read : Reader) : Reader := fun text =>
  match read text with
  | .ok value => .ok value
  | .error _ => .error .malformed

theorem givesValues_refusing (read : Reader) : read.refusing.GivesValues := by
  intro text cause h
  unfold refusing at h
  split at h <;> cases h

end Yaml.Reader

namespace Config

open Yaml (Value)

/-! ### Expected ends -/

/-- A configuration whose targets can all be read, or the fault of a configuration. -/
def Foreseen (outcome : Except Fault Config) : Prop :=
  (∃ config, outcome = .ok config ∧ ∀ target ∈ config.targets, (Target.parse? target).isSome) ∨
    ∃ cause, outcome = .error (.config cause)

theorem foreseen_ok (config : Config) : Foreseen (.ok config) := .inl ⟨config, rfl, config.targets_valid⟩

theorem foreseen_config (cause : ConfigFault) : Foreseen (.error (.config cause)) := .inr ⟨cause, rfl⟩

theorem foreseen_error_iff {fault : Fault} : Foreseen (.error fault) ↔ ∃ cause, fault = .config cause := by
  constructor
  · rintro (⟨config, hconfig, -⟩ | ⟨cause, hcause⟩)
    · cases hconfig
    · exact ⟨cause, Except.error.inj hcause⟩
  · rintro ⟨cause, rfl⟩
    exact foreseen_config cause

/-- The end of a computation is foreseen if its first part has no other faults and the end of the rest is foreseen. -/
theorem Foreseen.bind {α : Type} {first : Except Fault α} {rest : α → Except Fault Config}
    (hfirst : ∀ fault, first = .error fault → ∃ cause, fault = .config cause) (hrest : ∀ a, Foreseen (rest a)) :
    Foreseen (first >>= rest) := by
  cases first with
  | ok a => exact hrest a
  | error fault => exact foreseen_error_iff.2 (hfirst fault rfl)

/-! ### The parts of a mapping -/

theorem exists_of_stringList_eq_error {path key : String} {entries : List (Value × Value)} {fault : Fault}
    (h : stringList path entries key = .error fault) : ∃ cause, fault = .config cause := by
  unfold stringList at h
  split at h
  · cases h
  · cases h
  · split at h
    · cases h
    · cases h
      exact ⟨_, rfl⟩
  · cases h
    exact ⟨_, rfl⟩

theorem foreseen_override (base : Config) (builtins targets : Option (List String)) :
    Foreseen ((base.override builtins targets).mapError .config) := by
  cases base.override builtins targets with
  | ok config => exact foreseen_ok config
  | error cause => exact foreseen_config cause

/-- Keys that mean nothing are reported if all keys are texts.  A key that is no text means nothing, and cannot be
reported. -/
theorem unknownKeys_cases (entries : List (Value × Value)) :
    ((∀ entry ∈ entries, entry.1.text?.isSome) ∧ ∃ unknown, unknownKeys entries = .ok unknown) ∨
      (∃ entry ∈ entries, entry.1.text? = none) ∧ unknownKeys entries = .error .configKeys := by
  by_cases hkeys : ∀ entry ∈ entries, entry.1.text?.isSome
  · refine .inl ⟨hkeys, _, if_pos (List.all_eq_true.2 ?_)⟩
    intro key hkey
    obtain ⟨entry, hentry, rfl⟩ := List.mem_map.1 (List.mem_filter.1 hkey).1
    exact hkeys entry hentry
  · obtain ⟨entry, hentry, hkey⟩ : ∃ entry ∈ entries, entry.1.text? = none := by simpa using hkeys
    refine .inr ⟨⟨entry, hentry, hkey⟩, if_neg ?_⟩
    intro hall
    have hsome := List.all_eq_true.1 hall entry.1
      (List.mem_filter.2 ⟨List.mem_map_of_mem hentry, by simp [hkey]⟩)
    simp [hkey] at hsome

/-- A mapping is read to an expected end exactly if all its keys are texts. -/
theorem foreseen_ofEntries_iff (path : String) (entries : List (Value × Value)) (base : Config) :
    Foreseen (ofEntries path entries base) ↔ ∀ entry ∈ entries, entry.1.text?.isSome := by
  rcases unknownKeys_cases entries with ⟨hkeys, unknown, hunknown⟩ | ⟨⟨entry, hentry, hkey⟩, hfault⟩
  · refine iff_of_true ?_ hkeys
    rw [ofEntries, hunknown]
    change Foreseen (if unknown ≠ [] then _ else _)
    split
    · exact foreseen_config _
    · exact .bind (fun _ => exists_of_stringList_eq_error) fun builtins =>
        .bind (fun _ => exists_of_stringList_eq_error) fun extra =>
        .bind (fun _ => exists_of_stringList_eq_error) fun targets => foreseen_override _ _ _
  · have hnot : ¬ ∀ entry ∈ entries, entry.1.text?.isSome := by
      intro hall
      have hsome := hall entry hentry
      simp [hkey] at hsome
    refine iff_of_false ?_ hnot
    rw [ofEntries, hfault]
    change ¬ Foreseen (.error .configKeys)
    simp [foreseen_error_iff]

theorem foreseen_ofValue_iff (path : String) (value : Value) (base : Config) :
    Foreseen (ofValue path value base) ↔
      ∀ entries, value = .mapping entries → ∀ entry ∈ entries, entry.1.text?.isSome := by
  cases value with
  | mapping entries =>
    refine (foreseen_ofEntries_iff path entries base).trans ⟨?_, fun h => h entries rfl⟩
    rintro h _ ⟨⟩
    exact h
  | null => exact iff_of_true ((foreseen_ofEntries_iff path [] base).2 (by simp)) (by simp)
  | text s => exact iff_of_true (foreseen_config _) (by simp)
  | list items => exact iff_of_true (foreseen_config _) (by simp)
  | other => exact iff_of_true (foreseen_config _) (by simp)

/-! ### Files -/

/-- Contents that are a text, and if the document is a mapping every key in it is a text. -/
def Legible (read : Yaml.Reader) (content : Bytes) : Prop :=
  ∃ text, Utf8.decode content = .ok text ∧
    ∀ entries, read (unifyLineEnds text) = .ok (.mapping entries) → ∀ entry ∈ entries, entry.1.text?.isSome

section Reader

variable {read : Yaml.Reader} (hread : read.GivesValues)

include hread

theorem foreseen_ofBytes_iff (path : String) (content : Bytes) (base : Config) :
    Foreseen (ofBytes path content base read) ↔ Legible read content := by
  unfold ofBytes Legible
  cases hdecode : Utf8.decode content with
  | error mistake =>
    refine iff_of_false (by simp [foreseen_error_iff]) ?_
    rintro ⟨text, htext, -⟩
    cases htext
  | ok text =>
    simp only [Except.ok.injEq, exists_eq_left']
    cases hvalue : read (unifyLineEnds text) with
    | ok value =>
      refine (foreseen_ofValue_iff path value base).trans ?_
      simp
    | error fault =>
      cases fault with
      | malformed => exact iff_of_true (foreseen_config _) (by simp)
      | scalar cause => exact absurd hvalue (hread _ cause)

/-- **When reading a configuration ends in a configuration or in what is wrong with it.**  Let a reader of documents give a
value or refuse the text.  Whatever the files and the base are, reading gives a configuration whose targets can all be
read, or else the fault of a configuration, exactly if the file cannot be read or its contents are legible. -/
theorem load_foreseen_iff (tree : FileTree) (here : Location) (path : String) (base : Config) :
    ((∃ config, load tree here path base read = .ok config ∧
          ∀ target ∈ config.targets, (Target.parse? target).isSome) ∨
        ∃ cause, load tree here path base read = .error (.config cause)) ↔
      ∀ content, tree.read here (Path.tidy path) = .ok content → Legible read content := by
  change Foreseen (load tree here path base read) ↔ _
  rw [load]
  cases tree.read here (Path.tidy path) with
  | error cause => exact iff_of_true (foreseen_config _) (by simp)
  | ok content =>
    refine (foreseen_ofBytes_iff hread _ content base).trans ⟨?_, fun h => h content rfl⟩
    rintro h _ ⟨⟩
    exact h

end Reader

/-- A tree with one file. -/
def single (content : Bytes) : FileTree := .directory [("c.yaml", .file content)]

theorem read_single (content : Bytes) : (single content).read [] (Path.tidy "c.yaml") = .ok content := by
  have htidy : Path.tidy "c.yaml" = "c.yaml" := by decide +kernel
  have hsteps : FileTree.steps "c.yaml" = ["c.yaml"] := by decide +kernel
  have hsize : "c.yaml".utf8ByteSize = 6 := by decide
  rw [htidy]
  simp [single, FileTree.read, FileTree.lookup, FileTree.locate, FileTree.origin, hsteps, FileTree.locateFrom,
    FileTree.node?, FileTree.child?, FileTree.isDirectory, hsize, Except.bind]

/-- For instance, a key that means nothing has an expected end, for it is a text. -/
theorem load_foreseen_iff_unknown :
    let read := Yaml.Reader.refusing Yaml.read
    let tree := single (Utf8.encode ['a', ':'])
    read.GivesValues ∧
      ((∃ config, load tree [] "c.yaml" standard read = .ok config ∧
          ∀ target ∈ config.targets, (Target.parse? target).isSome) ∨
        ∃ cause, load tree [] "c.yaml" standard read = .error (.config cause)) := by
  intro read tree
  have hread : read.GivesValues := Yaml.Reader.givesValues_refusing _
  have hdocument : Yaml.read (unifyLineEnds ['a', ':']) = .ok (.mapping [(.text "a", .null)]) := by cbv
  have hvalue : read (unifyLineEnds ['a', ':']) = .ok (.mapping [(.text "a", .null)]) := by
    show Yaml.read.refusing (unifyLineEnds ['a', ':']) = _
    rw [Yaml.Reader.refusing, hdocument]
  refine ⟨hread, (load_foreseen_iff hread tree [] "c.yaml" standard).2 ?_⟩
  intro content hcontent
  rw [read_single] at hcontent
  cases hcontent
  refine ⟨['a', ':'], Utf8.decode_encode _, ?_⟩
  intro entries hentries
  rw [hvalue] at hentries
  cases hentries
  exact List.forall_mem_singleton.2 rfl

/-- A byte that begins no character has another end with every reader of documents, and so has a number as a key with one
that takes it for a number. -/
theorem load_illegible :
    (∀ read : Yaml.Reader, load (single [0xFF]) [] "c.yaml" standard read = .error .configEncoding) ∧
      load (single (Utf8.encode ['1', ':'])) [] "c.yaml" standard Yaml.read = .error .configKeys := by
  have hbyte : ∃ mistake, Utf8.decode [0xFF] = .error mistake := ⟨_, rfl⟩
  have htext : Utf8.decode (Utf8.encode ['1', ':']) = .ok ['1', ':'] := Utf8.decode_encode _
  have hvalue : Yaml.read (unifyLineEnds ['1', ':']) = .ok (.mapping [(.other, .null)]) := by cbv
  refine ⟨?_, ?_⟩
  · intro read
    obtain ⟨mistake, hbyte⟩ := hbyte
    rw [load, read_single]
    simp only [ofBytes, hbyte]
  · rw [load, read_single]
    simp only [ofBytes, htext, hvalue]
    rfl

end Config

end ModuleReach
