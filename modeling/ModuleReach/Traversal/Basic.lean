import ModuleReach.Config.Basic
import ModuleReach.Traversal.Task

/-!
# Traversals

A traversal settles one task for each entrypoint and reports on all of them.  The tasks know nothing of each other.  If some
tasks end in faults, so does the traversal, in the fault of the first of them in the order of the entrypoints.

## Main definitions

* `Traversal.entrypoints` — the entrypoints that some texts name, each once.
* `Traversal.settle` — what becomes of the tasks.
* `Traversal.conclude` — the report on settled tasks.
* `Traversal.run` — a traversal.
-/

namespace ModuleReach.Traversal

/-- The entrypoints that some texts name, each once and where it comes first. -/
def entrypoints (texts : List String) : List String := (texts.map Path.normalize).eraseDups

/-- What becomes of the tasks for some entrypoints, when some specifiers are put aside from the start. -/
def settle (packer : Packer) (entrypoints seed : List String) : List Task.Settled :=
  entrypoints.map fun entrypoint => (Task.start entrypoint seed).settle packer

/-- The results of settled tasks, or the fault of the first that failed. -/
def results : List Task.Settled → Run (List EntrypointResult)
  | [] => pure []
  | settled :: rest =>
    match settled.outcome with
    | .error fault => ⟨[.failed settled.task.entrypoint fault], .error fault⟩
    | .ok result => do pure (result :: (← results rest))

/-- The report on settled tasks. -/
def conclude (settled : List Task.Settled) : Run Report := do
  let report := Report.merge (← results settled)
  Run.note (.traversed settled.length report.files.length report.skips.length)
  pure report

/-- A traversal from the entrypoints that some texts name. -/
def run (packer : Packer) (texts seed : List String) : Run Report :=
  let settled := settle packer (entrypoints texts) seed
  (conclude settled).noting (settled.flatMap (·.notes))

end ModuleReach.Traversal
