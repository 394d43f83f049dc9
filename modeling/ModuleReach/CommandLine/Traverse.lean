import ModuleReach.CommandLine.Display
import ModuleReach.CommandLine.Toolkit
import ModuleReach.Config.Document
import ModuleReach.Store.Directory
import ModuleReach.Traversal.Basic

/-!
# The command that traverses

The command is given a directory and the entrypoints in it, and shows what can be reached from them.

## Main definitions

* `Traverse.Request`, `Traverse.request` — what the arguments ask for.
* `Traverse.Request.run` — the answer.
-/

namespace ModuleReach.CommandLine.Traverse

/-- The options of the command. -/
def switches : List Switch :=
  [⟨"--defer", some 'd', true⟩, ⟨"--target", some 't', true⟩, ⟨"--config", none, true⟩,
   ⟨"--format", none, true⟩, .help]

/-- What the arguments ask for. -/
structure Request where
  /-- The directory. -/
  root : String
  entrypoints : List String
  /-- The specifiers that may fail. -/
  deferred : List String
  /-- The targets that replace those of the configuration, if there are any. -/
  targets : List String
  /-- The file of the configuration. -/
  config : Option String
  format : Format
  deriving DecidableEq, Repr

/-- Tests that a path names a directory, or that it names none. -/
def checkPlace (tree : FileTree) (here : Location) (name wanted : String) (directory : Bool)
    (path : String) : Except UsageFault Unit :=
  match tree.lookup here path with
  | .error _ => .error (.badValue name (.noSuchPlace wanted path))
  | .ok node =>
    if node.isDirectory == directory then .ok ()
    else .error (.badValue name (.wrongPlace wanted path (if directory then "file" else "directory")))

/-- Tests the value of an option. -/
def checkOption (tree : FileTree) (here : Location) (long value : String) :
    Except UsageFault Unit :=
  match long with
  | "--config" => checkPlace tree here long "File" false value
  | "--format" => oneOf long Format.names value
  | _ => .ok ()

/-- What the arguments ask for, in a tree and seen from a location in it. -/
def request (tree : FileTree) (here : Location) (given : Given) : Except UsageFault Request := do
  given.check (checkOption tree here)
  match given.arguments with
  | [] => .error (.missingArgument "ROOT")
  | root :: entrypoints =>
    checkPlace tree here "ROOT" "Directory" true root
    if entrypoints = [] then .error (.missingArgument "ENTRYPOINTS...")
    else
      pure ⟨root, entrypoints, given.all "--defer", given.all "--target", given.last? "--config",
        Format.ofName ((given.last? "--format").getD "text")⟩

namespace Request

/-- The configuration that is asked for. -/
def configuration (r : Request) (tree : FileTree) (here : Location) (read : Yaml.Reader) : Except Fault Config := do
  let base ←
    match r.config with
    | some path => Config.load tree here path Config.standard read
    | none => pure Config.standard
  if r.targets = [] then pure base
  else (base.override none (some r.targets)).mapError .config

/-- What is shown of a report. -/
def showReport (console : Console) (format : Format) (report : Report) : Outcome :=
  match format with
  | .json => Outcome.printed (jsonText report.json)
  | .text => Outcome.printing 0 (reportTexts console report)

/-- What is shown of a fault: faults that are no business of a traversal end the program. -/
def showFault (console : Console) (format : Format) (fault : Fault) : Outcome :=
  if fault.kind.isExpected then
    ⟨1, match format with
      | .json => jsonText fault.json
      | .text => faultText console fault, "", none⟩
  else Outcome.crashed (.fault fault)

/-- The traversal that is asked for. -/
def traversal (r : Request) (store : Store) (config : Config) : Run Report :=
  Traversal.run (Packer.standard store config) r.entrypoints r.deferred

/-- The answer to a request. -/
def run (r : Request) (tools : Toolkit) (tree : FileTree) (here : Location) (verbose : Bool) : Outcome :=
  match r.configuration tree here tools.document with
  | .error (.config cause) => Outcome.refused ((UsageFault.config cause).report .traverse)
  | .error fault => Outcome.crashed (.fault fault)
  | .ok config =>
    match DirectoryStore.open? "drive" tree here (Path.tidy r.root) with
    | .error fault => Outcome.crashed (.fault fault)
    | .ok store =>
      let found := r.traversal store.toStore config
      Outcome.logging (log verbose found.notes)
        (match found.outcome with
          | .ok report => showReport tools.console r.format report
          | .error fault => showFault tools.console r.format fault)

end Request

/-- The command, given its arguments. -/
def run (tools : Toolkit) (tree : FileTree) (here : Location) (verbose : Bool) (given : Given) : Outcome :=
  match request tree here given with
  | .error fault => Outcome.refused (fault.report .traverse)
  | .ok r => r.run tools tree here verbose

end ModuleReach.CommandLine.Traverse
