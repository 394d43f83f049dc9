import ModuleReach.Fault

/-!
# Usage

What the command line tells its user about itself, and what it says of arguments that make no sense.

## Main definitions

* `Page` — the pages of help; `Page.usage` and `Page.help` are their texts.
* `UsageFault` — what can be wrong with arguments.
* `UsageFault.report` — what is printed then.
-/

namespace ModuleReach.CommandLine

open Text (quote)

/-- The pages of help: one for the program and one for each command. -/
inductive Page
  | program
  | traverse
  | conditions
  deriving DecidableEq, Repr

namespace Page

/-- How the page's command is called. -/
def call : Page → String
  | program => "pearshaker"
  | traverse => "pearshaker traverse"
  | conditions => "pearshaker conditions"

/-- The line on what can follow the call. -/
def usage : Page → String
  | program => "Usage: pearshaker [OPTIONS] COMMAND [ARGS]..."
  | traverse => "Usage: pearshaker traverse [OPTIONS] ROOT ENTRYPOINTS..."
  | conditions => "Usage: pearshaker conditions [OPTIONS]"

/-- What the page says below its first line. -/
def body : Page → List String
  | program =>
    ["  pearshaker: Find every file an application's entrypoints can load.",
     "",
     "  Walks require/import specifiers through a read-only file store, deferring",
     "  specifiers that cannot be resolved instead of failing.",
     "",
     "Options:",
     "  --version      Show the version and exit.",
     "  -v, --verbose  Log traversal progress to stderr.",
     "  --help         Show this message and exit.",
     "",
     "Commands:",
     "  conditions  Show condition tuples and extensions for a specifier KIND.",
     "  traverse    Compute the files reachable from ENTRYPOINTS inside ROOT."]
  | traverse =>
    ["  Compute the files reachable from ENTRYPOINTS inside ROOT.",
     "",
     "  Unresolvable specifiers are deferred and reported as skips. A missing",
     "  entrypoint is fatal.",
     "",
     "  Examples:",
     "",
     "      pearshaker traverse ./app /index.js",
     "",
     "      pearshaker traverse ./app /index.js --defer ./optional.js --format json",
     "",
     "Options:",
     "  -d, --defer TEXT      Specifier to tolerate if unresolved (repeatable).",
     "  -t, --target TEXT     <os>-<arch> target, in precedence order (repeatable).",
     "                        Replaces the configured targets.",
     "  --config FILE         YAML file overriding builtins and targets.",
     "  --format [text|json]  Output format (default: text).",
     "  --help                Show this message and exit."]
  | conditions =>
    ["  Show condition tuples and extensions for a specifier KIND.",
     "",
     "Options:",
     "  --kind [module|require|import|addon|asset]",
     "                                  Specifier kind (default: module).",
     "  -t, --target TEXT               <os>-<arch> target (repeatable). Defaults to",
     "                                  all built-in targets.",
     "  --format [text|json]            Output format (default: text).",
     "  --help                          Show this message and exit."]

/-- The whole page. -/
def help (p : Page) : String :=
  String.join ((p.usage :: "" :: p.body).map fun line => line ++ "\n")

end Page

/-- What can be wrong with the value of an argument. -/
inductive ValueFault
  /-- It is none of the values to choose from. -/
  | notOneOf (value : String) (choices : List String)
  /-- It names nothing. -/
  | noSuchPlace (wanted value : String)
  /-- It names something else than what is wanted. -/
  | wrongPlace (wanted value found : String)
  deriving DecidableEq, Repr

/-- The fault in words. -/
def ValueFault.message : ValueFault → String
  | notOneOf value choices =>
    quote value ++ " is not one of " ++ String.intercalate ", " (choices.map quote) ++ "."
  | noSuchPlace wanted value => wanted ++ " " ++ quote value ++ " does not exist."
  | wrongPlace wanted value found => wanted ++ " " ++ quote value ++ " is a " ++ found ++ "."

/-- What can be wrong with arguments. -/
inductive UsageFault
  /-- There is no such option; some have a similar name. -/
  | noSuchOption (name : String) (similar : List String)
  /-- An option that takes a value is given none. -/
  | needsValue (name : String)
  /-- An option that takes no value is given one. -/
  | takesNoValue (name : String)
  /-- There is no such command; some have a similar name. -/
  | noSuchCommand (name : String) (similar : List String)
  /-- No command is given. -/
  | missingCommand
  /-- Something that must be given is not. -/
  | missingArgument (name : String)
  /-- The value of an argument does not fit. -/
  | badValue (name : String) (cause : ValueFault)
  /-- More is given than can be used. -/
  | extraArguments (arguments : List String)
  /-- The arguments ask for a configuration that is not valid. -/
  | config (cause : ConfigFault)
  deriving DecidableEq, Repr

namespace UsageFault

/-- A message with the names that may have been meant. -/
def suggesting (message : String) : List String → String
  | [] => message
  | [name] => message ++ " Did you mean " ++ quote name ++ "?"
  | names => message ++ " (Did you mean one of: " ++ String.intercalate ", " (names.map quote) ++ "?)"

/-- The fault in words. -/
def message : UsageFault → String
  | noSuchOption name similar => suggesting ("No such option " ++ quote name ++ ".") similar
  | needsValue name => "Option " ++ quote name ++ " requires an argument."
  | takesNoValue name => "Option " ++ quote name ++ " does not take a value."
  | noSuchCommand name similar => suggesting ("No such command " ++ quote name ++ ".") similar
  | missingCommand => "Missing command."
  | missingArgument name => "Missing argument '" ++ name ++ "'."
  | badValue name cause => "Invalid value for '" ++ name ++ "': " ++ cause.message
  | extraArguments [argument] => "Got unexpected extra argument (" ++ argument ++ ")"
  | extraArguments arguments =>
    "Got unexpected extra arguments (" ++ String.intercalate " " arguments ++ ")"
  | config cause => cause.message

/-- Whether the user is told how to call the command.  Nothing is said of it where only the value of an option is amiss. -/
def showsUsage : UsageFault → Bool
  | needsValue _ => false
  | takesNoValue _ => false
  | _ => true

/-- What is printed if something is wrong with the arguments of the command of a page. -/
def report (page : Page) (fault : UsageFault) : String :=
  (if fault.showsUsage then
    page.usage ++ "\nTry '" ++ page.call ++ " --help' for help.\n\n"
  else "") ++ "Error: " ++ fault.message ++ "\n"

end UsageFault

end ModuleReach.CommandLine
