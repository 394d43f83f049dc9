import ModuleReach.CommandLine.Arguments
import ModuleReach.CommandLine.Console
import ModuleReach.CommandLine.Display
import ModuleReach.Config.Basic

/-!
# The command that shows conditions

The command shows under which conditions, and with which extensions, the entries of a kind are resolved.

## Main definitions

* `Conditions.kinds` — the kinds of entry, by name.
* `Conditions.run` — the command.
-/

namespace ModuleReach.CommandLine.Conditions

/-- The kinds of entry, by name.  Addons and assets are asked for by calls. -/
def kinds : List (String × Entry) :=
  [("module", ⟨"", false, false, false, false⟩), ("require", ⟨"", false, false, true, false⟩),
   ("import", ⟨"", false, false, false, true⟩), ("addon", ⟨"", true, false, true, false⟩),
   ("asset", ⟨"", false, true, true, false⟩)]

/-- The options of the command. -/
def switches : List Switch :=
  [⟨"--kind", none, true⟩, ⟨"--target", some 't', true⟩, ⟨"--format", none, true⟩, .help]

/-- Tests the value of an option. -/
def checkOption (long value : String) : Except UsageFault Unit :=
  match long with
  | "--kind" => oneOf long (kinds.map Prod.fst) value
  | "--format" => oneOf long Format.names value
  | _ => .ok ()

/-- The plan that the arguments ask for. -/
def plan (given : Given) : Except UsageFault Plan := do
  given.check checkOption
  if given.arguments ≠ [] then .error (.extraArguments given.arguments)
  else
    let entry := (kinds.lookup ((given.last? "--kind").getD "module")).getD (.ofSpecifier "")
    let targets := given.all "--target"
    (Plan.ofEntry entry (if targets = [] then Config.standardTargets else targets)).mapError .config

/-- The command, given its arguments. -/
def run (console : Console) (given : Given) : Outcome :=
  match plan given with
  | .error fault => Outcome.refused (fault.report .conditions)
  | .ok p =>
    match Format.ofName ((given.last? "--format").getD "text") with
    | .json => Outcome.printed (jsonText p.json)
    | .text => Outcome.printing 0 (planTexts console p)

end ModuleReach.CommandLine.Conditions
