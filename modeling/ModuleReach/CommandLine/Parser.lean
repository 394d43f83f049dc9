import ModuleReach.CommandLine.Arguments
import ModuleReach.Text.Similarity
import ModuleReach.Text.Split

/-!
# How arguments are read

The value of a long option follows a `=` or is the next argument, whatever that looks like.  Letters can be put together behind
one dash; the value of a letter is what is left behind it, or the next argument.  After `--` there are no more options.

## Main definitions

* `Reading` — what one argument says.
* `Given.read` — arguments in order, as a command takes them.
-/

namespace ModuleReach.CommandLine

/-- What one argument says. -/
structure Reading where
  /-- The options that it sets, by their long names. -/
  options : List (String × String)
  /-- The option whose value is the next argument: its long name, and the name by which it was called. -/
  waiting : Option (String × String)
  deriving DecidableEq, Repr

namespace Reading

/-- What letters behind one dash say. -/
def ofLetters (switches : List Switch) : List Char → Except UsageFault Reading
  | [] => .ok ⟨[], none⟩
  | c :: rest =>
    let name := String.ofList ['-', c]
    match switches.find? fun s => s.short == some c with
    | none => .error (.noSuchOption name [])
    | some s =>
      if !s.takesValue then
        (ofLetters switches rest).map fun r => { r with options := (s.long, "") :: r.options }
      else if rest = [] then .ok ⟨[], some (s.long, name)⟩
      else .ok ⟨[(s.long, String.ofList rest)], none⟩

/-- What an option says, with the value behind its `=` if there is one. -/
def ofSwitch (s : Switch) : Option String → Except UsageFault Reading
  | none => .ok (if s.takesValue then ⟨[], some (s.long, s.long)⟩ else ⟨[(s.long, "")], none⟩)
  | some value =>
    if s.takesValue then .ok ⟨[(s.long, value)], none⟩ else .error (.takesNoValue s.long)

/-- What an argument says that begins with a dash. -/
def ofArgument (switches : List Switch) (argument : String) : Except UsageFault Reading :=
  let (name, value) :=
    match Text.cutFirst? '=' argument.toList with
    | some cut => (String.ofList cut.1, some (String.ofList cut.2))
    | none => (argument, none)
  match switches.find? fun s => s.long == name with
  | some s => ofSwitch s value
  | none =>
    match argument.toList with
    | '-' :: '-' :: _ => .error (.noSuchOption name (Text.closest name (switches.map (·.long))))
    | letters => ofLetters switches letters.tail

end Reading

namespace Given

/-- Whether an argument looks like an option: a lone dash does not. -/
def looksLikeOption (argument : String) : Bool :=
  match argument.toList with
  | '-' :: _ :: _ => true
  | _ => false

/-- Arguments with some options put before. -/
def withOptions (options : List (String × String)) (g : Given) : Given :=
  { g with options := options ++ g.options }

/-- Arguments with one that is no option put before. -/
def withArgument (argument : String) (g : Given) : Given :=
  { g with arguments := argument :: g.arguments }

/-- Arguments as a command takes them.  If options can only come first, the first argument that is none ends them. -/
def read (switches : List Switch) (optionsFirst : Bool) : List String → Except UsageFault Given
  | [] => .ok ⟨[], []⟩
  | argument :: rest =>
    if argument = "--" then .ok ⟨[], rest⟩
    else if looksLikeOption argument then
      match Reading.ofArgument switches argument with
      | .error fault => .error fault
      | .ok ⟨options, none⟩ => (read switches optionsFirst rest).map (withOptions options)
      | .ok ⟨options, some (long, name)⟩ =>
        match rest with
        | [] => .error (.needsValue name)
        | value :: rest =>
          (read switches optionsFirst rest).map (withOptions (options ++ [(long, value)]))
    else if optionsFirst then .ok ⟨[], argument :: rest⟩
    else (read switches optionsFirst rest).map (withArgument argument)

end Given

end ModuleReach.CommandLine
