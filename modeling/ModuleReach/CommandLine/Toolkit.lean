import ModuleReach.CommandLine.Arguments
import ModuleReach.CommandLine.Console
import ModuleReach.Yaml.Basic

/-!
# Toolkits

The command line leaves it to others to take arguments apart, to read the document in a configuration file, and to lay out
what it shows.  It is given a toolkit for these three.

## Main definitions

* `Toolkit` — the toolkits.
-/

namespace ModuleReach.CommandLine

/-- What the command line works with. -/
structure Toolkit where
  /-- How arguments are taken apart, by the options of a command and whether options can only come first. -/
  arguments : (switches : List Switch) → (optionsFirst : Bool) → List String → Except UsageFault Given
  /-- How the document in a configuration file is read. -/
  document : Yaml.Reader
  /-- How texts, tables and panels are laid out. -/
  console : Console

end ModuleReach.CommandLine
