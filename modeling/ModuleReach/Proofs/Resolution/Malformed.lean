import ModuleReach.Proofs.Json.Nesting
import ModuleReach.Proofs.Resolution.Addon
import ModuleReach.Proofs.Resolution.Exports
import ModuleReach.Proofs.Text.WellFormed

/-!
# Malformed manifests

A manifest that is no JSON object in UTF-8 counts as missing wherever a manifest is read: for the `main` of a directory, the
`exports` of a package, the scope of a `#` specifier, and the package and name of an addon.  So a search looks at the same places
without the file, and its answer is the same, too, unless it is this very file.

All this is said of stores whose manifests the reader can follow.  The reader cannot see that a text is malformed where it
nests deeper than the limit, and such a text is a fault and not a missing manifest.

## Main definitions

* `Manifest.Malformed` — the contents that are no manifest.
* `Store.IsWithout` — that a store has the files of another one but for the one at a path.
* `MemoryStore.without` — the store in memory without a file.

## Main results

* `Resolution.firstOf_isWithout_iff` — when the answer of a search is the same without a file.
* `Manifest.exists_malformed_too_deep` — under every limit there is a malformed manifest that is a fault.
* `Resolution.answers_without_malformed` — the answers for modules and addons without a malformed manifest.
-/

namespace ModuleReach

/-! ### Stores without a file -/

/-- Whether a store has the files of another one, under the same URLs, but for the one at a path. -/
structure Store.IsWithout (s s' : Store) (path : String) : Prop where
  scheme : s'.scheme = s.scheme
  absent : s'.content? path = none
  others : ∀ q, Path.normalize q ≠ Path.normalize path → s'.content? q = s.content? q

/-- The store without the file that a path names, and without its contents if they are at no other path. -/
def MemoryStore.without (m : MemoryStore) (path : String) : MemoryStore :=
  let index := m.index.erase (Path.normalize path)
  match m.index.get? (Path.normalize path) with
  | none => { m with index }
  | some digest => { m with index, blobs := dropUnused digest index m.blobs }

namespace MemoryStore

variable (m : MemoryStore) (path : String)

theorem index_without : (m.without path).index = m.index.erase (Path.normalize path) := by
  unfold without
  dsimp only
  split <;> rfl

/-- The contents of the files that are left are there. -/
theorem get?_blobs_without {q digest : String} (h : (m.without path).index.get? q = some digest) :
    (m.without path).blobs.get? digest = m.blobs.get? digest := by
  rw [index_without] at h
  unfold without
  dsimp only
  split
  · rfl
  · exact get?_dropUnused h

/-- From every store in memory a file can be removed. -/
theorem isWithout_without : m.toStore.IsWithout (m.without path).toStore path where
  scheme := by
    show (m.without path).scheme = m.scheme
    unfold without
    dsimp only
    split <;> rfl
  absent := by
    rw [content?_toStore, MemoryStore.content?, index_without, InsertionMap.get?_erase_self, Option.bind_none]
  others q hq := by
    have hindex : (m.without path).index.get? (Path.normalize q) = m.index.get? (Path.normalize q) := by
      rw [index_without, InsertionMap.get?_erase_of_ne hq]
    rw [content?_toStore, content?_toStore, MemoryStore.content?, MemoryStore.content?]
    cases hdigest : m.index.get? (Path.normalize q) with
    | none => rw [hindex, hdigest, Option.bind_none, Option.bind_none]
    | some digest =>
      have hleft := hindex.trans hdigest
      rw [hleft, Option.bind_some, Option.bind_some, m.get?_blobs_without path hleft]

end MemoryStore

namespace Store.IsWithout

variable {s s' : Store} {path : String}

theorem url_eq (h : s.IsWithout s' path) : s'.url = s.url := by
  funext q
  rw [Store.url, Store.url, h.scheme]

/-- Nothing is found at any spelling of the path. -/
theorem has_eq_false (h : s.IsWithout s' path) {q : String} (hq : Path.normalize q = Path.normalize path) :
    s'.has q = false := by
  rw [Store.has, ← Store.content?_normalize, hq, Store.content?_normalize, h.absent, Option.isSome_none]

theorem has_eq (h : s.IsWithout s' path) {q : String} (hq : Path.normalize q ≠ Path.normalize path) :
    s'.has q = s.has q := by
  rw [Store.has, Store.has, h.others q hq]

/-- A bound on how deep the manifests nest holds of those that are left. -/
theorem nestsWithin (h : s.IsWithout s' path) {bound : Nat} (hbound : s.NestsWithin bound) : s'.NestsWithin bound := by
  intro q content text hname hread htext
  have hcontent : s'.content? q = some content := read_eq_ok_some_iff.1 hread
  have hne : Path.normalize q ≠ Path.normalize path := by
    intro hq
    rw [← content?_normalize, hq, content?_normalize, h.absent] at hcontent
    cases hcontent
  apply hbound q content text hname _ htext
  rw [read_eq_ok_some_iff, ← h.others q hne, hcontent]

/-- A store that is read under a limit stays without the file. -/
theorem within (h : s.IsWithout s' path) (limit : Nat) : (s.within limit).IsWithout (s'.within limit) path where
  scheme := h.scheme
  absent := h.absent
  others := h.others

/-- No file is found that was not there before. -/
theorem has_eq_false_of_has (h : s.IsWithout s' path) {q : String} (hq : s.has q = false) : s'.has q = false := by
  by_cases hpath : Path.normalize q = Path.normalize path
  · exact h.has_eq_false hpath
  · rw [h.has_eq hpath, hq]

end Store.IsWithout

/-! ### What is no manifest -/

namespace Manifest

/-- Contents that are not the UTF-8 of a JSON object. -/
def Malformed (content : Bytes) : Prop :=
  ∀ text fields, Utf8.decode content = .ok text → Json.read? text ≠ some (.object fields)

theorem malformed_iff {content : Bytes} : Malformed content ↔ parse? content = none := by
  unfold Malformed parse?
  cases Utf8.decode content with
  | error m => simp
  | ok text =>
    constructor
    · intro h
      dsimp only
      split
      · rename_i fields hread
        exact absurd hread (h text fields rfl)
      · rfl
    · rintro h text fields htext hread
      cases htext
      simp [hread] at h

/-- A malformed manifest is read as a missing one. -/
theorem of?_eq_of_isWithout {s s' : Store} {path : String} (h : s.IsWithout s' path)
    (hmalformed : ∀ content, s.content? path = some content → Malformed content) : of? s' = of? s := by
  funext directory
  rw [of?, of?]
  by_cases hpath : Path.normalize (Manifest.path directory) = Path.normalize path
  · -- The directory's manifest is the file: one store does not have it, and in the other it is malformed.
    have hsame : ∀ s : Store, s.content? (Manifest.path directory) = s.content? path := by
      intro s
      rw [← Store.content?_normalize, hpath, Store.content?_normalize]
    rw [hsame, hsame, h.absent, Option.bind_none]
    cases hcontent : s.content? path with
    | none => rfl
    | some content => exact (malformed_iff.1 (hmalformed content hcontent)).symm
  · rw [h.others _ hpath]

/-- A manifest that nests too deep is a fault, whatever it says. -/
theorem outcome_read_of_refuses {s : Store} {directory : String} {content : Bytes}
    (hcontent : s.content? (path directory) = some content) (hrefuses : s.refuses content = true) :
    (read s directory).outcome = .error (.manifestTooDeep (path directory)) := by
  rw [read, Store.read_eq_ok_some_iff.2 hcontent]
  dsimp only
  rw [if_pos hrefuses]
  rfl

/-- Under every limit there is a malformed manifest that nests too deep: arrays that are opened and never closed. -/
theorem exists_malformed_too_deep (limit : Nat) :
    ∃ content, Malformed content ∧ ∀ s : Store, (s.within limit).refuses content = true := by
  let text := List.replicate (limit + 1) '['
  have hdecode : Utf8.decode (Utf8.encode text) = .ok text := Utf8.decode_encode text
  refine ⟨Utf8.encode text, ?_, ?_⟩
  · intro text' fields htext'
    cases hdecode.symm.trans htext'
    rw [Json.read?_brackets]
    simp
  · intro s
    cases hrefuses : (s.within limit).refuses (Utf8.encode text) with
    | true => rfl
    | false =>
      have hle : Json.depth text ≤ limit := Store.refuses_within_eq_false_iff.1 hrefuses text hdecode
      rw [Json.depth_brackets] at hle
      omega

end Manifest

/-! ### Answers without a file -/

namespace Resolution

variable {s s' : Store} {path : String}

/-- Without a file the answer of a search is the same just if it was not the file. -/
theorem firstOf_isWithout_iff (h : s.IsWithout s' path) (specifier : String) (referrer : Option Url)
    (places : List String) :
    firstOf s' specifier referrer places = firstOf s specifier referrer places ↔
      firstOf s specifier referrer places ≠ .resolved (s.url path) := by
  cases hfind : places.find? s.has with
  | none =>
    have hplaces : ∀ place ∈ places, s'.has place = false := by
      intro place hplace
      exact h.has_eq_false_of_has (Store.find?_has_eq_none_iff.1 hfind place hplace)
    have hfind' : places.find? s'.has = none := Store.find?_has_eq_none_iff.2 hplaces
    unfold firstOf
    rw [hfind, hfind', h.url_eq]
    simp
  | some found =>
    have hfirst : firstOf s specifier referrer places = .resolved (s.url found) := by
      unfold firstOf
      rw [hfind]
    rw [hfirst]
    by_cases hfound : Path.normalize found = Path.normalize path
    · -- The file was the answer, and it cannot be one where it is not.
      have hurl : s.url found = s.url path := by
        rw [Store.url, Store.url, hfound]
      refine iff_of_false ?_ (not_not_intro (by rw [hurl]))
      intro hsame
      obtain ⟨-, content, hcontent⟩ := firstOf_eq_resolved hsame
      have habsent : s'.has found = false := h.has_eq_false hfound
      rw [Store.pathname_url, Store.content?_normalize] at hcontent
      rw [Store.has, hcontent] at habsent
      cases habsent
    · have hne : s.url found ≠ s.url path := by
        intro hurl
        exact hfound (congrArg Url.pathname hurl)
      refine iff_of_true ?_ (by simpa using hne)
      obtain ⟨hhas, before, after, rfl, hbefore⟩ := List.find?_eq_some_iff_append.1 hfind
      have hbefore' : ∀ place ∈ before, s'.has place = false := by
        intro place hplace
        exact h.has_eq_false_of_has (by simpa using hbefore place hplace)
      rw [firstOf_of_first hbefore' ((h.has_eq hfound).trans hhas), h.url_eq]

section Malformed

variable (h : s.IsWithout s' path)
  (hmalformed : ∀ content, s.content? path = some content → Manifest.Malformed content)

include h hmalformed

/-- Without a malformed manifest a search looks at the same places. -/
theorem outlook_isWithout (extensions : List String) (matrix : Conditions) :
    s'.outlook extensions matrix = s.outlook extensions matrix := by
  rw [Store.outlook, Store.outlook, Manifest.of?_eq_of_isWithout h hmalformed]

variable (hs : s.Closed) (hs' : s'.Closed)

include hs hs'

theorem outcome_module_isWithout_iff (specifier : String) (referrer : Option Url) (extensions : List String)
    (conditions : Conditions) :
    (module s' specifier referrer extensions conditions).outcome =
        (module s specifier referrer extensions conditions).outcome ↔
      (module s specifier referrer extensions conditions).outcome ≠ .ok (.resolved (s.url path)) := by
  rw [outcome_module hs, outcome_module hs', outlook_isWithout h hmalformed,
    Except.ok.injEq, ne_eq, Except.ok.injEq]
  exact firstOf_isWithout_iff h _ _ _

theorem outcome_addon_isWithout_iff (specifier : String) (referrer : Option Url) (extensions : List String)
    (conditions : Conditions) (hosts : List String) (linked : Bool) :
    (addon s' specifier referrer extensions conditions hosts linked).outcome =
        (addon s specifier referrer extensions conditions hosts linked).outcome ↔
      (addon s specifier referrer extensions conditions hosts linked).outcome ≠ .ok (.resolved (s.url path)) := by
  cases linked with
  | true => simp [addon]
  | false =>
    rw [outcome_addon_asked hs, outcome_addon_asked hs', outlook_isWithout h hmalformed,
      Except.ok.injEq, ne_eq, Except.ok.injEq]
    exact firstOf_isWithout_iff h _ _ _

end Malformed

/-- **A malformed manifest is the same as none.**  Take a store in memory in which no manifest nests deeper than its reader
can follow, and let the file at a path be no JSON object in UTF-8.  There is a store without this file, and in each such
store the answer for every specifier, as a module or as an addon, is the same as before, the places that have been looked
at included, just if it was not the file itself. -/
theorem answers_without_malformed (m : MemoryStore) {limit : Nat} (hlimit : m.toStore.NestsWithin limit) {path : String}
    (hmalformed : ∀ content, m.toStore.content? path = some content → Manifest.Malformed content) :
    (∃ m' : MemoryStore, m.toStore.IsWithout m'.toStore path) ∧
      ∀ m' : MemoryStore, m.toStore.IsWithout m'.toStore path →
        ∀ specifier referrer extensions conditions hosts linked,
          let file := Except.ok (Resolution.resolved (m.toStore.url path))
          let asModule := fun m : MemoryStore =>
            (module (m.toStore.within limit) specifier referrer extensions conditions).outcome
          let asAddon := fun m : MemoryStore =>
            (addon (m.toStore.within limit) specifier referrer extensions conditions hosts linked).outcome
          (asModule m' = asModule m ↔ asModule m ≠ file) ∧ (asAddon m' = asAddon m ↔ asAddon m ≠ file) := by
  refine ⟨⟨m.without path, m.isWithout_without path⟩, ?_⟩
  intro m' h specifier referrer extensions conditions hosts linked
  have hs : (m.toStore.within limit).Closed := m.closed_toStore.within hlimit
  have hs' : (m'.toStore.within limit).Closed := m'.closed_toStore.within (h.nestsWithin hlimit)
  exact ⟨outcome_module_isWithout_iff (h.within limit) hmalformed hs hs' specifier referrer extensions conditions,
    outcome_addon_isWithout_iff (h.within limit) hmalformed hs hs' specifier referrer extensions conditions hosts linked⟩

/-- A package with a manifest that is cut off, inside one whose manifest has `imports`. -/
def cutOff : MemoryStore := .ofFiles "drive"
  [("/package.json", Utf8.encode "\x7b\"imports\":\x7b\"#x\":\"./x.js\"\x7d\x7d".toList), ("/x.js", []),
   ("/lib/package.json", Utf8.encode "\x7b\"imports\":".toList)]

/-- The outer manifest counts, whether the inner one is malformed or missing. -/
theorem answers_without_cutOff :
    let referrer := some (cutOff.toStore.url "/lib/index.js")
    let found := Except.ok (Resolution.resolved (cutOff.toStore.url "/x.js"))
    cutOff.toStore.NestsWithin 2 ∧
    (∀ content, cutOff.toStore.content? "/lib/package.json" = some content → Manifest.Malformed content) ∧
      ∃ m' : MemoryStore, cutOff.toStore.IsWithout m'.toStore "/lib/package.json" ∧
        (module (cutOff.toStore.within 2) "#x" referrer [] []).outcome = found ∧
        (module (m'.toStore.within 2) "#x" referrer [] []).outcome = found := by
  intro referrer found
  have hlimit : cutOff.toStore.NestsWithin 2 := MemoryStore.nestsWithin_of_keys (by decide +kernel)
  have hmalformed : ∀ content, cutOff.toStore.content? "/lib/package.json" = some content →
      Manifest.Malformed content := by
    intro content hcontent
    have hparse : (cutOff.toStore.content? "/lib/package.json").bind Manifest.parse? = none := by decide +kernel
    rw [hcontent, Option.bind_some] at hparse
    exact Manifest.malformed_iff.2 hparse
  have hfound : (module (cutOff.toStore.within 2) "#x" referrer [] []).outcome = found := by
    rw [outcome_module (cutOff.closed_toStore.within hlimit), Except.ok.injEq]
    decide +kernel
  have hother : found ≠ Except.ok (.resolved (cutOff.toStore.url "/lib/package.json")) := by
    rw [ne_eq, Except.ok.injEq]
    decide +kernel
  obtain ⟨⟨m', hm'⟩, hsame⟩ := answers_without_malformed cutOff hlimit hmalformed
  have hmodule := (hsame m' hm' "#x" referrer [] [] [] false).1
  refine ⟨hlimit, hmalformed, m', hm', hfound, ?_⟩
  exact (hmodule.2 fun h => hother (hfound.symm.trans h)).trans hfound

end Resolution

end ModuleReach
