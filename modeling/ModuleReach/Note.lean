import ModuleReach.Fault

/-!
# Notes

What a computation remarks on its way, for a log.  Notes never change an answer.

## Main definitions

* `Note` — the remarks, by occasion.
* `Note.level`, `Note.message` — how important a remark is, and its words.
-/

namespace ModuleReach

open Text (quote)

/-- A remark of a computation. -/
inductive Note
  /-- A manifest is not well formed and counts as missing.  The words of the decoder on where it is not follow in a log; they
  are left out. -/
  | malformedManifest (path : String)
  /-- A manifest is well formed but no object, and counts as missing. -/
  | manifestNotObject (path : String)
  /-- A package has a list of exports, and what is asked for is not on it or not there. -/
  | notExported (specifier subpath package : String)
  /-- A package has no binary for any of the hosts. -/
  | noPrebuild (name package : String)
  /-- A specifier that failed to resolve is passed over. -/
  | passedOver (specifier path : String)
  /-- A file without an extension is not text, and so holds no specifiers. -/
  | notText (path : String)
  /-- A walk from an entrypoint begins. -/
  | packing (entrypoint : String) (attempt deferred : Nat)
  /-- A specifier that failed to resolve is added to those to pass over. -/
  | skipping (specifier pathname : String)
  /-- The walks from an entrypoint ended in a fault. -/
  | failed (entrypoint : String) (fault : Fault)
  /-- All walks have ended, with this many entrypoints, files and skipped specifiers. -/
  | traversed (entrypoints files skips : Nat)
  deriving DecidableEq, Repr

namespace Note

/-- How important a remark is. -/
inductive Level
  | debug
  | warning
  deriving DecidableEq, Repr

/-- The level as a log shows it. -/
def Level.label : Level → String
  | .debug => "DEBUG"
  | .warning => "WARNING"

/-- The importance of a remark. -/
def level : Note → Level
  | malformedManifest .. => .warning
  | manifestNotObject .. => .warning
  | skipping .. => .warning
  | _ => .debug

/-- The remark in words. -/
def message : Note → String
  | malformedManifest path => "Ignoring malformed manifest " ++ path
  | manifestNotObject path => "Ignoring manifest " ++ path ++ ": not a JSON object"
  | notExported specifier subpath package =>
    specifier ++ ": " ++ subpath ++ " not exported by " ++ package
  | noPrebuild name package => "No prebuild for " ++ name ++ " in " ++ package
  | passedOver specifier path => "Ignoring deferred " ++ quote specifier ++ " in " ++ path
  | notText path => "Not lexing " ++ path ++ ": extensionless file is not UTF-8 text"
  | packing entrypoint attempt deferred =>
    "Packing " ++ entrypoint ++ " (attempt " ++ toString attempt ++ ", " ++ toString deferred ++
      " deferred)"
  | skipping specifier pathname =>
    "Skipping unresolved " ++ quote specifier ++ " imported from " ++ pathname
  | failed entrypoint fault => "Traversal of " ++ entrypoint ++ " failed: " ++ fault.message
  | traversed entrypoints files skips =>
    "Traversed " ++ toString entrypoints ++ " entrypoint(s): " ++ toString files ++ " file(s), " ++
      toString skips ++ " skip(s)"

end Note

end ModuleReach
