import ModuleReach.Json.Reader
import ModuleReach.Path
import ModuleReach.Run
import ModuleReach.Text.Utf8

/-!
# Stores

A store is a read-only collection of files under canonical paths.  Any text may be used to ask for a file: the store looks
at the canonical path that the text names.  A store holds files at finitely many canonical paths, and that is why a walk
through it ends.

Files called `package.json` are read as JSON, and a store says how deep the values in them may nest.  The limit stands for the
room that the machine leaves to the reader of JSON at the deepest of the calls from which a manifest is read.

## Main definitions

* `Held` — what a store has at a path; `Held.answer` — what is answered to a text that asks for it.
* `Store` — the stores; `Store.within` — a store that is read under a limit.
* `Store.read`, `Store.holds`, `Store.url` — the contents, the existence and the URL of a file.
* `Store.refuses` — whether contents nest too deep for the reader.
* `Store.Closed` — the stores in which nothing that is looked for is a fault.
* `Store.NestsWithin` — a bound on how deep the manifests of a store nest.

## Main results

* `Store.Closed.within` — a closed store stays so under a limit that its manifests keep.
-/

namespace ModuleReach

/-- What a store has at a canonical path. -/
inductive Held
  /-- A file. -/
  | file (content : Bytes)
  /-- Nothing that can be read. -/
  | absent
  /-- A link that leads out of the store, whose own place is `root`. -/
  | outside (root : String)
  deriving DecidableEq, Repr

/-- What is answered to a text that asks for a file, from what there is at the path that it names. -/
def Held.answer (path : String) : Held → Except Fault (Option Bytes)
  | .file content => .ok (some content)
  | .absent => .ok none
  | .outside root => .error (.escapesStore path root)

/-- A read-only collection of files. -/
structure Store where
  /-- The scheme of the URLs of its files. -/
  scheme : String
  /-- What there is at a canonical path. -/
  held : String → Held
  /-- There are files at finitely many canonical paths. -/
  finite : ∃ paths : List String, ∀ path content, held path = .file content → path ∈ paths
  /-- How deep the values in a manifest may nest, if there is a limit. -/
  depthLimit : Option Nat := none

namespace Store

/-- The contents of the file that a text names, if there is one. -/
def read (s : Store) (path : String) : Except Fault (Option Bytes) :=
  (s.held (Path.normalize path)).answer path

/-- Whether there is a file that a text names. -/
def holds (s : Store) (path : String) : Except Fault Bool := (s.read path).map Option.isSome

/-- The URL of the file that a text names. -/
def url (s : Store) (path : String) : Url := Url.ofPath s.scheme (Path.normalize path)

/-- The store whose manifests are read under a limit. -/
def within (s : Store) (limit : Nat) : Store := { s with depthLimit := some limit }

/-- Whether the values in a text nest too deep for the reader of manifests. -/
def refuses (s : Store) (content : Bytes) : Bool :=
  match s.depthLimit with
  | none => false
  | some limit =>
    match Utf8.decode content with
    | .error _ => false
    | .ok text => limit < Json.depth text

/-- A store none of whose links lead out of it, and whose manifests the reader can follow. -/
structure Closed (s : Store) : Prop where
  ne_outside : ∀ path root, s.held path ≠ .outside root
  readable : ∀ path content, Path.name (Path.normalize path) = "package.json" → s.read path = .ok (some content) →
    s.refuses content = false

/-- In no manifest of the store do values nest deeper than a bound. -/
def NestsWithin (s : Store) (bound : Nat) : Prop :=
  ∀ path content text, Path.name (Path.normalize path) = "package.json" → s.read path = .ok (some content) →
    Utf8.decode content = .ok text → Json.depth text ≤ bound

theorem refuses_within_eq_false_iff {s : Store} {limit : Nat} {content : Bytes} :
    (s.within limit).refuses content = false ↔ ∀ text, Utf8.decode content = .ok text → Json.depth text ≤ limit := by
  simp only [refuses, within]
  cases Utf8.decode content with
  | error mistake => simp
  | ok text => simp

/-- A closed store is closed under every limit that its manifests keep. -/
theorem Closed.within {s : Store} {limit : Nat} (h : s.Closed) (hlimit : s.NestsWithin limit) :
    (s.within limit).Closed where
  ne_outside := h.ne_outside
  readable path content hname hread := by
    apply refuses_within_eq_false_iff.2
    intro text htext
    exact hlimit path content text hname hread htext

theorem read_of_closed {s : Store} (h : s.Closed) (path : String) :
    ∃ content, s.read path = .ok content := by
  unfold read
  cases hp : s.held (Path.normalize path) with
  | file content => exact ⟨_, rfl⟩
  | absent => exact ⟨_, rfl⟩
  | outside root => exact absurd hp (h.ne_outside _ root)

end Store

end ModuleReach
