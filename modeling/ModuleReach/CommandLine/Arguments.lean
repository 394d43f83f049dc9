import ModuleReach.CommandLine.Usage

/-!
# Arguments

Arguments are options and everything else.  An option has a long name after two dashes, and maybe a letter after one dash.

## Main definitions

* `Switch` — the options of a command.
* `Given` — arguments as a command takes them.
-/

namespace ModuleReach.CommandLine

/-- An option of a command. -/
structure Switch where
  /-- The long name, with its dashes. -/
  long : String
  /-- The letter behind one dash. -/
  short : Option Char
  takesValue : Bool
  deriving DecidableEq, Repr

/-- Arguments as a command takes them. -/
structure Given where
  /-- The options by their long names, with their values, in order.  Without a value, the text is empty. -/
  options : List (String × String)
  /-- The arguments that are no options. -/
  arguments : List String
  deriving DecidableEq, Repr

namespace Given

/-- The values given to an option, in order. -/
def all (g : Given) (long : String) : List String :=
  (g.options.filter fun o => o.1 == long).map Prod.snd

/-- The value that counts: the last one given to an option. -/
def last? (g : Given) (long : String) : Option String := (g.all long).getLast?

/-- Whether an option is given. -/
def has (g : Given) (long : String) : Bool := g.options.any fun o => o.1 == long

/-- The options that are given, each where it is given first. -/
def named (g : Given) : List String := (g.options.map Prod.fst).eraseDups

/-- Tests the values that count, in the order in which their options are first given. -/
def check (g : Given) (test : (long value : String) → Except UsageFault Unit) :
    Except UsageFault Unit :=
  g.named.forM fun long => test long ((g.last? long).getD "")

end Given

/-- The option for help that each command has. -/
def Switch.help : Switch := ⟨"--help", none, false⟩

/-- Tests that a value is one of those to choose from. -/
def oneOf (long : String) (choices : List String) (value : String) : Except UsageFault Unit :=
  if value ∈ choices then .ok () else .error (.badValue long (.notOneOf value choices))

end ModuleReach.CommandLine
