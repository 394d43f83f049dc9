import ModuleReach.CommandLine.Conditions
import ModuleReach.CommandLine.Standard
import ModuleReach.CommandLine.Traverse
import ModuleReach.Text.Similarity

/-!
# The command line

The program has options of its own, which come first, and then a command with its arguments.

## Main definitions

* `Command` — the commands.
* `CommandLine.places` — the paths that arguments name.
* `CommandLine.run` — what the program leaves behind when it is called in a place of a file tree.
-/

namespace ModuleReach.CommandLine

/-- The commands. -/
inductive Command
  | conditions
  | traverse
  deriving DecidableEq, Repr

namespace Command

/-- The commands by name. -/
def named : List (String × Command) := [("conditions", conditions), ("traverse", traverse)]

/-- The page of help on a command. -/
def page : Command → Page
  | conditions => .conditions
  | traverse => .traverse

/-- The options of a command. -/
def switches : Command → List Switch
  | conditions => Conditions.switches
  | traverse => Traverse.switches

/-- What a command leaves behind.  Help is given whatever else the arguments say, if they can be read. -/
def run (c : Command) (tools : Toolkit) (tree : FileTree) (here : Location) (verbose : Bool)
    (arguments : List String) : Outcome :=
  match tools.arguments c.switches false arguments with
  | .error fault => Outcome.refused (fault.report c.page)
  | .ok given =>
    if given.has "--help" then Outcome.printed c.page.help
    else
      match c with
      | conditions => Conditions.run tools.console given
      | traverse => Traverse.run tools tree here verbose given

end Command

/-- The version of the program. -/
def version : String := "0.1.0"

/-- The options of the program. -/
def switches : List Switch := [⟨"--version", none, false⟩, ⟨"--verbose", some 'v', false⟩, .help]

/-- What is printed for the first option that is answered at once. -/
def atOnce? (given : Given) : Option String :=
  given.options.findSome? fun o =>
    match o.1 with
    | "--version" => some ("pearshaker, version " ++ version ++ "\n")
    | "--help" => some Page.program.help
    | _ => none

/-- The program refuses its own arguments. -/
def refuse (fault : UsageFault) : Outcome := Outcome.refused (fault.report .program)

/-- What the program leaves behind if there is no command of the first of the given names.  Names that look like options are
taken as such first. -/
def noSuchCommand (tools : Toolkit) (name : String) (arguments : List String) : Outcome :=
  match tools.arguments switches true (name :: arguments) with
  | .error fault => refuse fault
  | .ok given =>
    match atOnce? given with
    | some text => Outcome.printed text
    | none => refuse (.noSuchCommand name (Text.closest name (Command.named.map Prod.fst)))

/-- The paths that arguments name: those of which the answer may depend on what is there. -/
def places (arguments : List String) (tools : Toolkit := .standard) : List String :=
  match tools.arguments switches true arguments with
  | .ok ⟨_, "traverse" :: rest⟩ =>
    match tools.arguments Traverse.switches false rest with
    | .ok given => given.arguments.head?.toList ++ (given.last? "--config").toList
    | .error _ => []
  | _ => []

/-- What the program leaves behind when it is called in a place of a file tree, with the usual toolkit or another one. -/
def run (tree : FileTree) (here : Location) (arguments : List String) (tools : Toolkit := .standard) : Outcome :=
  match arguments with
  | [] => Outcome.refused Page.program.help
  | arguments =>
    match tools.arguments switches true arguments with
    | .error fault => refuse fault
    | .ok given =>
      match atOnce? given, given.arguments with
      | some text, _ => Outcome.printed text
      | none, [] => refuse .missingCommand
      | none, name :: rest =>
        match Command.named.lookup name with
        | some command => command.run tools tree here (given.has "--verbose") rest
        | none => noSuchCommand tools name rest

end ModuleReach.CommandLine
