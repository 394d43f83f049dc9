import ModuleReach.Target

/-!
# Configurations

A traversal is told which specifiers belong to the runtime, and so are never looked for, and for which targets to look, in order of
precedence.  Every target of a configuration can be read; this is part of the type.

## Main definitions

* `Config` — the two lists.
* `Config.make` — the configuration with two given lists, or the fault that a target cannot be read.
* `Config.standard` — what holds unless something else is asked for.
* `Config.override` — a configuration with some of its lists replaced.
* `Config.targetPairs` — the targets in two parts.
-/

namespace ModuleReach

/-- What a traversal is told. -/
structure Config where
  /-- The specifiers that belong to the runtime. -/
  builtins : List String
  /-- The targets, in order of precedence, as they are written. -/
  targets : List String
  /-- Every target can be read. -/
  targets_valid : ∀ target ∈ targets, (Target.parse? target).isSome

namespace Config

/-- The specifiers that belong to the runtime unless something else is asked for. -/
def standardBuiltins : List String :=
  ["net", "assert", "console", "events", "fs", "fs/promises", "http", "https", "os", "util", "path",
   "child_process", "repl", "url", "tty", "module", "process", "timers", "inspector", "electron",
   "stream", "crypto", "tls", "zlib", "buffer"]

/-- The targets unless something else is asked for. -/
def standardTargets : List String :=
  ["darwin-arm64", "darwin-x64", "linux-arm64", "linux-x64", "win32-x64"]

/-- The configuration with two given lists; the first target that cannot be read is a fault. -/
def make (builtins targets : List String) : Except ConfigFault Config :=
  match h : targets.find? fun target => (Target.parse? target).isNone with
  | some target => .error (.invalidTarget target)
  | none => .ok ⟨builtins, targets, fun target ht => by
      simpa [Option.isSome_iff_ne_none] using List.find?_eq_none.1 h target ht⟩

/-- What holds unless something else is asked for. -/
def standard : Config := ⟨standardBuiltins, standardTargets, by decide +kernel⟩

/-- A configuration with the lists that are given in place of its own. -/
def override (c : Config) (builtins targets : Option (List String)) : Except ConfigFault Config :=
  make (builtins.getD c.builtins) (targets.getD c.targets)

/-- The targets in two parts. -/
def targetPairs (c : Config) : List Target := c.targets.filterMap Target.parse?

end Config

end ModuleReach
