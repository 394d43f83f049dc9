import ModuleReach.Resolution.Basic
import ModuleReach.Proofs.Path.Canonical

/-!
# Lookups in a closed store

In a store none of whose links lead out of it nothing that is looked for is a fault.  There a lookup is settled by a list of
places: it looks at them in order, writes each of them down, and stops at the first where there is a file.

## Main definitions

* `Store.content?`, `Store.has` — what a closed store answers, without the faults.
* `Lookup.scan` — looking at some places in order.
* `Lookup.LooksAt` — the lookups that do no more than that.
* `Resolution.firstOf` — the answer of a search that looks at some places in order.

## Main results

* `Lookup.LooksAt.orElse`, `Lookup.LooksAt.each`, `Lookup.looksAt_reading` — the places of a lookup are those of its parts,
  in order.
* `Lookup.LooksAt.outcome_ofLookup` — the answer that a lookup leads to.
-/

namespace ModuleReach

/-! ### Reading -/

namespace Store

/-- The contents of the file that a text names, if there is one. -/
def content? (s : Store) (path : String) : Option Bytes :=
  match s.held (Path.normalize path) with
  | .file content => some content
  | _ => none

/-- Whether there is a file that a text names. -/
def has (s : Store) (path : String) : Bool := (s.content? path).isSome

theorem read_eq {s : Store} (hs : s.Closed) (path : String) :
    s.read path = .ok (s.content? path) := by
  unfold read content?
  cases h : s.held (Path.normalize path) with
  | file content => rfl
  | absent => rfl
  | outside root => exact absurd h (hs.ne_outside _ root)

/-- What is read is there, in any store. -/
theorem read_eq_ok_some_iff {s : Store} {path : String} {content : Bytes} :
    s.read path = .ok (some content) ↔ s.content? path = some content := by
  unfold read content?
  cases s.held (Path.normalize path) <;> simp [Held.answer]

/-- The contents of a closed store's manifest are not too deep for the reader. -/
theorem refuses_eq_false {s : Store} (hs : s.Closed) {path : String} (hname : Path.name (Path.normalize path) = "package.json")
    {content : Bytes} (h : s.content? path = some content) : s.refuses content = false :=
  hs.readable path content hname (read_eq_ok_some_iff.2 h)

theorem holds_eq {s : Store} (hs : s.Closed) (path : String) : s.holds path = .ok (s.has path) := by
  rw [holds, read_eq hs]
  rfl

@[simp] theorem content?_normalize (s : Store) (path : String) :
    s.content? (Path.normalize path) = s.content? path := by
  rw [content?, content?, Path.normalize_normalize]

@[simp] theorem url_normalize (s : Store) (path : String) :
    s.url (Path.normalize path) = s.url path := by
  rw [url, url, Path.normalize_normalize]

@[simp] theorem pathname_url (s : Store) (path : String) :
    (s.url path).pathname = Path.normalize path := rfl

/-- Different canonical paths have different URLs. -/
theorem normalize_eq_of_href_url {s : Store} {path path' : String} (h : (s.url path).href = (s.url path').href) :
    Path.normalize path = Path.normalize path' := by
  have hchars := congrArg String.toList h
  simp only [url, Url.ofPath, String.toList_append, List.append_cancel_left_eq] at hchars
  exact String.toList_inj.1 hchars

theorem exists_content_of_has {s : Store} {path : String} (h : s.has path = true) :
    ∃ content, s.content? path = some content := Option.isSome_iff_exists.1 h

theorem find?_has_eq_none_iff {s : Store} {paths : List String} :
    paths.find? s.has = none ↔ ∀ path ∈ paths, s.has path = false := by
  simp [List.find?_eq_none]

end Store

/-! ### Looking at places in order -/

namespace Lookup

/-- The first of some places where there is a file, with the URLs of the places up to it after those seen before. -/
def scan (s : Store) : List String → List String → Option String × List String
  | [], seen => (none, seen)
  | path :: rest, seen =>
    if s.has path then (some path, seen ++ [(s.url path).href])
    else scan s rest (seen ++ [(s.url path).href])

theorem scan_append (s : Store) (places more seen : List String) :
    scan s (places ++ more) seen =
      match scan s places seen with
      | (some path, seen) => (some path, seen)
      | (none, seen) => scan s more seen := by
  induction places generalizing seen with
  | nil => rfl
  | cons path rest ih =>
    rw [List.cons_append, scan, scan]
    cases s.has path with
    | true => rfl
    | false => exact ih _

theorem fst_scan (s : Store) (places seen : List String) :
    (scan s places seen).1 = places.find? s.has := by
  induction places generalizing seen with
  | nil => rfl
  | cons path rest ih =>
    rw [scan, List.find?_cons]
    cases s.has path with
    | true => rfl
    | false => exact ih _

/-- Where there is no file at all, every place has been written down. -/
theorem snd_scan_of_find?_eq_none {s : Store} {places : List String}
    (h : places.find? s.has = none) (seen : List String) :
    (scan s places seen).2 = seen ++ places.map fun path => (s.url path).href := by
  induction places generalizing seen with
  | nil => exact (List.append_nil seen).symm
  | cons path rest ih =>
    rw [List.find?_cons] at h
    rw [scan]
    cases hpath : s.has path with
    | true => simp [hpath] at h
    | false =>
      have hrest : rest.find? s.has = none := by simpa [hpath] using h
      rw [if_neg (by simp), ih hrest, List.append_assoc]
      rfl

/-- A lookup that looks at some canonical paths in order, up to the first where there is a file. -/
structure LooksAt (l : Lookup) (s : Store) (places : List String) : Prop where
  normalize_eq : ∀ path ∈ places, Path.normalize path = path
  outcome_eq : ∀ seen, (l seen).outcome = .ok (scan s places seen)

variable {s : Store}

theorem looksAt_nothing (s : Store) : nothing.LooksAt s [] where
  normalize_eq := by simp
  outcome_eq _ := rfl

theorem looksAt_note (s : Store) (n : Note) : (note n).LooksAt s [] where
  normalize_eq := by simp
  outcome_eq _ := rfl

theorem looksAt_probe (hs : s.Closed) (path : String) :
    (probe s path).LooksAt s [Path.normalize path] where
  normalize_eq := by simp [Path.normalize_normalize]
  outcome_eq seen := by
    rw [probe, scan, scan, Store.holds_eq hs]
    cases s.has (Path.normalize path) <;> rfl

/-- The places of two parts are those of the first and then those of the second. -/
theorem LooksAt.orElse {l next : Lookup} {places more : List String} (hl : l.LooksAt s places)
    (hnext : next.LooksAt s more) : (l <|> next).LooksAt s (places ++ more) where
  normalize_eq path hpath := by
    rcases List.mem_append.1 hpath with h | h
    · exact hl.normalize_eq path h
    · exact hnext.normalize_eq path h
  outcome_eq seen := by
    change (Lookup.orElse l (fun _ => next) seen).outcome = _
    rw [Lookup.orElse, Run.outcome_bind, hl.outcome_eq, scan_append]
    rcases scan s places seen with ⟨- | path, seen'⟩
    · exact hnext.outcome_eq seen'
    · rfl

/-- The places of a part for each element are those of all these parts. -/
theorem LooksAt.each {α : Type} {f : α → Lookup} {places : α → List String}
    (h : ∀ a, (f a).LooksAt s (places a)) (as : List α) :
    (Lookup.each f as).LooksAt s (as.flatMap places) := by
  induction as with
  | nil => exact looksAt_nothing s
  | cons a rest ih =>
    rw [List.flatMap_cons]
    exact (h a).orElse ih

theorem looksAt_each_probe (hs : s.Closed) {α : Type} (path : α → String) (as : List α) :
    (Lookup.each (fun a => probe s (path a)) as).LooksAt s
      (as.map fun a => Path.normalize (path a)) := by
  rw [List.map_eq_flatMap]
  exact LooksAt.each (fun a => looksAt_probe hs (path a)) as

theorem looksAt_reading {α : Type} {r : Run α} {a : α} {f : α → Lookup} {places : List String}
    (hr : r.outcome = .ok a) (hf : (f a).LooksAt s places) : (reading r f).LooksAt s places where
  normalize_eq := hf.normalize_eq
  outcome_eq seen := by
    rw [reading, Run.outcome_bind, hr]
    exact hf.outcome_eq seen

end Lookup

/-! ### Answers -/

namespace Resolution

/-- The answer of a search that looks at some places in order. -/
def firstOf (s : Store) (specifier : String) (referrer : Option Url) (paths : List String) :
    Resolution :=
  match paths.find? s.has with
  | some path => .resolved (s.url path)
  | none => .unresolved ⟨specifier, referrer, paths.map fun path => (s.url path).href⟩

variable {s : Store} {specifier : String} {referrer : Option Url} {paths : List String}

/-- A specifier that is resolved has a file. -/
theorem firstOf_eq_resolved {url : Url} (h : firstOf s specifier referrer paths = .resolved url) :
    url = s.url url.pathname ∧ ∃ content, s.content? url.pathname = some content := by
  unfold firstOf at h
  split at h
  · rename_i path hpath
    cases h
    have hhas : s.has path = true := List.find?_some hpath
    rw [Store.pathname_url, Store.url_normalize, Store.content?_normalize]
    exact ⟨rfl, Store.exists_content_of_has hhas⟩
  · cases h

/-- A specifier that is not resolved is named in the answer, with the file it stands in. -/
theorem firstOf_eq_unresolved {failure : Unresolved}
    (h : firstOf s specifier referrer paths = .unresolved failure) :
    failure.specifier = specifier ∧ failure.referrer = referrer := by
  unfold firstOf at h
  split at h
  · cases h
  · cases h
    exact ⟨rfl, rfl⟩

/-- Where there is no answer there is no file at any of the places. -/
theorem absent_of_firstOf {failure : Unresolved}
    (h : firstOf s specifier referrer paths = .unresolved failure) :
    ∀ path ∈ paths, s.has path = false := by
  unfold firstOf at h
  split at h
  · cases h
  · rename_i hfind
    exact Store.find?_has_eq_none_iff.1 hfind

/-- If there is a file at one of the places and at no other, it is the answer. -/
theorem firstOf_of_only {path : String} (hmem : path ∈ paths) (hpath : s.has path = true)
    (hother : ∀ q ∈ paths, q ≠ path → s.has q = false) :
    firstOf s specifier referrer paths = .resolved (s.url path) := by
  unfold firstOf
  cases hfind : paths.find? s.has with
  | none =>
    have habsent := List.find?_eq_none.1 hfind path hmem
    exact absurd hpath habsent
  | some q =>
    have hq : s.has q = true := List.find?_some hfind
    have heq : q = path := by
      by_cases h : q = path
      · exact h
      · rw [hother q (List.mem_of_find?_eq_some hfind) h] at hq
        cases hq
    rw [heq]

end Resolution

/-- The answer that a lookup leads to is settled by its places. -/
theorem Lookup.LooksAt.outcome_ofLookup {s : Store} {l : Lookup} {places : List String}
    (h : l.LooksAt s places) (specifier : String) (referrer : Option Url) :
    (Resolution.ofLookup s specifier referrer l).outcome =
      .ok (Resolution.firstOf s specifier referrer places) := by
  have hfst := fst_scan s places []
  rw [Resolution.ofLookup, Run.outcome_bind, h.outcome_eq, Resolution.firstOf]
  cases hfind : places.find? s.has with
  | some path =>
    rw [hfind] at hfst
    rcases hscan : scan s places [] with ⟨found, seen⟩
    rw [hscan] at hfst
    cases hfst
    rfl
  | none =>
    have hsnd := snd_scan_of_find?_eq_none hfind []
    rw [hfind] at hfst
    rcases hscan : scan s places [] with ⟨found, seen⟩
    rw [hscan] at hfst hsnd
    cases hfst
    cases hsnd
    rfl

end ModuleReach
