import ModuleReach.Pack.Basic

/-!
# Reports

What the walks from several entrypoints found, put together.  Files are united in the order in which they were first seen.  A
specifier that was skipped in a file is reported once, as it was skipped first.  What the entries of a file resolve to is taken
from the last walk that met the file.

## Main definitions

* `Skip` — a specifier that was skipped, with the file it stands in.
* `EntrypointResult` — what the walks from one entrypoint found.
* `Report`, `Report.merge` — what is reported of several entrypoints.
-/

namespace ModuleReach

/-- A specifier that failed to resolve and was passed over. -/
structure Skip where
  specifier : String
  /-- The URL of the file it stands in. -/
  referrer : Url
  /-- The URLs of the places looked at, in order. -/
  candidates : List String
  deriving DecidableEq, Repr

/-- What makes two skips the same: the specifier and the URL of the file. -/
def Skip.key (s : Skip) : String × String := (s.specifier, s.referrer.href)

/-- What the walks from one entrypoint found. -/
structure EntrypointResult where
  entrypoint : String
  /-- The paths of the files. -/
  files : List String
  skips : List Skip
  resolutions : Resolutions

/-- What is reported of several entrypoints. -/
structure Report where
  /-- The paths of the files. -/
  files : List String
  skips : List Skip
  resolutions : Resolutions

namespace Report

/-- All files in the order in which they were first seen. -/
def mergeFiles (results : List EntrypointResult) : List String :=
  (results.flatMap (·.files)).eraseDups

/-- All skips, of which each is kept as it occurs first. -/
def mergeSkips (results : List EntrypointResult) : List Skip :=
  (results.flatMap (·.skips)).eraseDupsBy fun s t => s.key == t.key

/-- All resolutions, where those of a later result replace those of an earlier one in the same file. -/
def mergeResolutions (results : List EntrypointResult) : Resolutions :=
  results.foldl (fun merged r => merged.union r.resolutions) ∅

/-- What is reported of some results. -/
def merge (results : List EntrypointResult) : Report :=
  ⟨mergeFiles results, mergeSkips results, mergeResolutions results⟩

end Report

end ModuleReach
