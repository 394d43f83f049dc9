import ModuleReach.Store.Basic

/-!
# Resolutions

The answer to the question which file a specifier names, and the lookups that give it.  A lookup looks at places in the store
one after the other, writes down the URL of each, and stops at the first where there is a file; if there is none, the answer
names every place.  What is read from the store on the way decides where a lookup goes next.

## Main definitions

* `Resolution` — a file's URL, or what was asked for and every place looked at.
* `Lookup` — the parts of a search; `Lookup.probe` looks at one place.
* `Lookup.orElse`, `Lookup.each`, `Lookup.reading` — one part after the other until a file is found, and the part that
  depends on what is read.
* `Resolution.ofLookup` — the answer that a lookup leads to.
-/

namespace ModuleReach

/-- A specifier that names no file. -/
structure Unresolved where
  /-- The specifier, as it is written. -/
  specifier : String
  /-- The URL of the file it stands in; none for the file to start from. -/
  referrer : Option Url
  /-- The URLs of the places looked at, in order. -/
  candidates : List String
  deriving DecidableEq, Repr

/-- The answer to the question which file a specifier names. -/
inductive Resolution
  | resolved (url : Url)
  | unresolved (failure : Unresolved)
  deriving DecidableEq, Repr

/-- A part of a search.  It is given the URLs of the places looked at before, and ends with the path of a file, if it finds one,
and with the URLs of all places looked at by then. -/
def Lookup := List String → Run (Option String × List String)

namespace Lookup

/-- The part in which there is nothing to look at. -/
def nothing : Lookup := fun seen => pure (none, seen)

/-- Write down the URL of a place, and look whether there is a file. -/
def probe (store : Store) (path : String) : Lookup := fun seen =>
  let path := Path.normalize path
  let seen := seen ++ [(store.url path).href]
  match store.holds path with
  | .ok true => pure (some path, seen)
  | .ok false => pure (none, seen)
  | .error fault => Run.fail fault

/-- One part, and then another one if no file is found in the first. -/
def orElse (l : Lookup) (next : Unit → Lookup) : Lookup := fun seen => do
  match ← l seen with
  | (some path, seen) => pure (some path, seen)
  | (none, seen) => next () seen

instance : OrElse Lookup := ⟨orElse⟩

/-- A part for each element of a list, until a file is found. -/
def each {α : Type} (f : α → Lookup) : List α → Lookup
  | [] => nothing
  | a :: rest => f a <|> each f rest

/-- The part that depends on what is read. -/
def reading {α : Type} (r : Run α) (f : α → Lookup) : Lookup := fun seen => do f (← r) seen

/-- Take a note. -/
def note (n : Note) : Lookup := fun seen => do
  Run.note n
  pure (none, seen)

end Lookup

/-- The answer that a lookup leads to. -/
def Resolution.ofLookup (store : Store) (specifier : String) (referrer : Option Url) (l : Lookup) :
    Run Resolution := do
  match ← l [] with
  | (some path, _) => pure (.resolved (store.url path))
  | (none, seen) => pure (.unresolved ⟨specifier, referrer, seen⟩)

/-- The directory from which the specifiers in a file are read; the root if there is no file. -/
def Resolution.baseOf (referrer : Option Url) : String :=
  match referrer with
  | some url => Path.directory url.pathname
  | none => "/"

end ModuleReach
