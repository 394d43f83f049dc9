import ModuleReach.Entry
import ModuleReach.Resolution.Addon
import ModuleReach.Target

/-!
# Resolving entries

What an entry is decides how its specifier is resolved: as an addon or as a module, with which extensions, and under which
conditions.  Each target gives three sets of conditions, and each set is headed by a word for what the entry is.  The order
of the sets is that of the targets.

## Main definitions

* `buildConditions` — the sets of conditions that targets give.
* `Plan`, `Plan.ofEntry` — how an entry is resolved for some targets.
* `Resolver` — the ways to resolve entries; `Resolver.standard` is the one described here.
-/

namespace ModuleReach

/-- The extensions of modules, in order of preference. -/
def moduleExtensions : List String := [".js", ".cjs", ".mjs", ".json", ".node", ".bare"]

/-- The sets of conditions that one target gives. -/
def Target.conditions (t : Target) : Conditions :=
  [["node", t.os, t.arch], ["node", "bare", t.os, t.arch], ["module", t.os, t.arch]]

/-- The sets of conditions that targets give, or the fault that one of them cannot be read. -/
def buildConditions : List String → Except ConfigFault Conditions
  | [] => .ok []
  | text :: rest => do
    let target ← Target.parse text
    let others ← buildConditions rest
    pure (target.conditions ++ others)

/-- How an entry is resolved. -/
structure Plan where
  /-- What the entry is. -/
  kind : Entry.Kind
  /-- The specifier to look for. -/
  specifier : String
  /-- The sets of conditions, in order of precedence. -/
  conditions : Conditions
  /-- The extensions, or `none` if only the exact file will do. -/
  extensions : Option (List String)
  deriving DecidableEq, Repr

namespace Plan

/-- Whether the entry asks for an addon. -/
def isAddon (p : Plan) : Bool := p.kind == .addon

/-- The word at the head of each set of conditions. -/
def headOf : Entry.Kind → List String
  | .plain => []
  | kind => [kind.label]

/-- The extensions for each kind of entry. -/
def extensionsOf : Entry.Kind → Option (List String)
  | .addon => some Addon.standardExtensions
  | .asset => none
  | _ => some moduleExtensions

/-- The specifier to look for: for an addon, the empty one stands for the referrer's own package. -/
def specifierOf (e : Entry) : String :=
  if e.isAddon ∧ e.specifier = "" then "." else e.specifier

/-- How an entry is resolved under some sets of conditions. -/
def under (e : Entry) (conditions : Conditions) : Plan :=
  ⟨e.kind, specifierOf e, conditions.map (headOf e.kind ++ ·), extensionsOf e.kind⟩

/-- How an entry is resolved for some targets. -/
def ofEntry (e : Entry) (targets : List String) : Except ConfigFault Plan :=
  (buildConditions targets).map (under e)

/-- The answer that a plan leads to, with the targets as hosts of addons. -/
def resolve (p : Plan) (store : Store) (referrer : Option Url) (targets : List String) :
    Run Resolution :=
  if p.isAddon then
    Resolution.addon store p.specifier referrer (p.extensions.getD []) p.conditions targets false
  else Resolution.module store p.specifier referrer (p.extensions.getD []) p.conditions

end Plan

/-- A way to resolve an entry in a file for some targets. -/
abbrev Resolver := Entry → Option Url → List String → Run Resolution

/-- The resolver that looks for files in a store. -/
def Resolver.standard (store : Store) : Resolver := fun e referrer targets =>
  match Plan.ofEntry e targets with
  | .error cause => Run.fail (.config cause)
  | .ok plan => plan.resolve store referrer targets

end ModuleReach
