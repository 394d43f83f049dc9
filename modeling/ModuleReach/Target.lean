import ModuleReach.Fault
import ModuleReach.Text.Blank
import ModuleReach.Text.Split

/-!
# Targets

A target is a platform that a program may be built for, written as an operating system and an architecture with a dash
between them.

## Main definitions

* `Target` — the two parts; `Target.parse?` reads them.
* `Target.parse` — reading with a fault for a text that is no target.
-/

namespace ModuleReach

/-- A platform: an operating system and an architecture. -/
structure Target where
  os : String
  arch : String
  deriving DecidableEq, Repr

namespace Target

/-- The two parts of a target.  Blanks around the whole text do not count; each part has at least one character
and no dash. -/
def parse? (text : String) : Option Target :=
  match Text.splitWhere (· == '-') (Text.trimBlanks text.toList) with
  | [os, arch] =>
    if os = [] ∨ arch = [] then none else some ⟨String.ofList os, String.ofList arch⟩
  | _ => none

/-- The two parts of a target, or the fault that there are not two. -/
def parse (text : String) : Except ConfigFault Target :=
  match parse? text with
  | some target => .ok target
  | none => .error (.invalidTarget text)

end Target

end ModuleReach
