import ModuleReach.Markup.Fault
import ModuleReach.Run

/-!
# Outcomes

What a run of the program leaves behind: the code it exits with and the texts it prints.  Faults that the program does not
expect cross its whole course and end it; what was printed before stays printed.

## Main definitions

* `Crash`, `Outcome` — the ends of a run.
* `Outcome.printing` — the outcome of printing some texts, of which each may fail.
* `logLine` — a note as the log shows it.
-/

namespace ModuleReach.CommandLine

/-- What can end the program in a way that it does not expect. -/
inductive Crash
  | fault (cause : Fault)
  | markup (cause : Markup.Fault)
  deriving DecidableEq, Repr

/-- The end in words. -/
def Crash.message : Crash → String
  | fault cause => cause.message
  | markup cause => cause.message

/-- What a run of the program leaves behind. -/
structure Outcome where
  exitCode : Nat
  /-- What is printed on the standard output. -/
  output : String
  /-- What is printed on the standard error output. -/
  errors : String
  crash : Option Crash
  deriving DecidableEq, Repr

namespace Outcome

/-- The program prints a text and ends well. -/
def printed (text : String) : Outcome := ⟨0, text, "", none⟩

/-- The program refuses its arguments. -/
def refused (errors : String) : Outcome := ⟨2, "", errors, none⟩

/-- The program ends in a way that it does not expect. -/
def crashed (cause : Crash) : Outcome := ⟨1, "", "", some cause⟩

/-- The outcome after `text` has been printed. -/
def after (text : String) (o : Outcome) : Outcome := { o with output := text ++ o.output }

/-- The outcome of printing some texts up to the first that fails. -/
def printing (exitCode : Nat) : List (Except Markup.Fault String) → Outcome
  | [] => ⟨exitCode, "", "", none⟩
  | .error cause :: _ => crashed (.markup cause)
  | .ok text :: rest => (printing exitCode rest).after text

/-- The outcome with more in the log. -/
def logging (log : String) (o : Outcome) : Outcome := { o with errors := log ++ o.errors }

end Outcome

/-- The part of the program that takes a note. -/
def partOf : Note → String
  | .malformedManifest .. => "pearshaker.core.resolution.manifest"
  | .manifestNotObject .. => "pearshaker.core.resolution.manifest"
  | .notExported .. => "pearshaker.core.resolution.modules"
  | .noPrebuild .. => "pearshaker.core.resolution.addons"
  | .passedOver .. => "pearshaker.core.packer"
  | .notText .. => "pearshaker.core.packer"
  | .packing .. => "pearshaker.core.traversal.engine"
  | .skipping .. => "pearshaker.core.traversal.engine"
  | .failed .. => "pearshaker.core.traversal.engine"
  | .traversed .. => "pearshaker.core.traversal.engine"

/-- A note as the log shows it. -/
def logLine (n : Note) : String := n.level.label ++ " " ++ partOf n ++ ": " ++ n.message ++ "\n"

/-- Notes as the log shows them, if it is kept. -/
def log (verbose : Bool) (notes : List Note) : String :=
  if verbose then String.join (notes.map logLine) else ""

end ModuleReach.CommandLine
