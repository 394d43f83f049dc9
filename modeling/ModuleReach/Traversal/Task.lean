import ModuleReach.Config.Basic
import ModuleReach.Pack.Walk
import ModuleReach.Traversal.Report

/-!
# Tasks

The task for an entrypoint makes packs until one is complete.  Each time that making a pack stops at a specifier, the task puts the
specifier aside, remembers that it was skipped, and starts over.  A task ends in a fault if making a pack does, if the
entrypoint itself is missing, or if making a pack stops at a specifier that had been put aside.

Since a packer stops at finitely many specifiers and none is put aside twice, a task ends.

## Main definitions

* `Packing` — whatever makes packs; `Packer` — the ways to make them that stop at finitely many specifiers.
* `Packer.standard` walks through a store, `Packer.prepared` has its answers prepared.
* `Task` — an entrypoint with what was put aside and skipped so far.
* `Task.attempt`, `Task.step` — one attempt.
* `Task.settle` — all attempts; `Settled` is what becomes of a task.
-/

namespace ModuleReach

/-- Whatever makes a pack from an entrypoint.  It is given the specifiers that were put aside at each earlier attempt from the
entrypoint, and those put aside now. -/
abbrev Packing :=
  (entrypoint : String) → (earlier : List (List String)) → (deferred : List String) → Run PackOutcome

/-- A way to make packs with which every task ends. -/
structure Packer where
  pack : Packing
  /-- From one entrypoint, the packer stops at finitely many specifiers. -/
  bounded : ∀ entrypoint, ∃ specifiers : List String, ∀ earlier deferred failure,
    (pack entrypoint earlier deferred).outcome = .ok (.unresolved failure) →
      failure.referrer.isSome → failure.specifier ∈ specifiers

/-- The packer that does a job, with the specifiers put aside as those that may fail. -/
def PackJob.packer (job : PackJob) : Packer where
  pack entrypoint _ deferred := { job with deferred }.pack entrypoint
  bounded _ := by
    obtain ⟨specifiers, h⟩ := job.exists_stops
    exact ⟨specifiers, fun _ deferred failure hpack hreferrer =>
      h deferred _ (PackJob.stopsAt_of_pack hpack hreferrer)⟩

/-- The packer that walks through a store and resolves entries with the given resolver. -/
def Packer.walking (store : Store) (resolve : Resolver) (config : Config) : Packer :=
  PackJob.packer ⟨store, resolve, Source.entries, config.builtins, config.targets, []⟩

/-- The packer that walks through a store. -/
def Packer.standard (store : Store) (config : Config) : Packer :=
  Packer.walking store (Resolver.standard store) config

/-- The packer that has its answers prepared for each entrypoint: the first attempt gets the first answer, and so on, and
the last answer is given again when there are no more.  Without any answer, packs are empty. -/
def Packer.prepared (answers : String → List (Run PackOutcome)) : Packer where
  pack entrypoint earlier _ :=
    match (answers entrypoint)[earlier.length]?.or (answers entrypoint).getLast? with
    | some answer => answer
    | none => pure (.packed ⟨∅, ∅⟩)
  bounded entrypoint := by
    refine ⟨(answers entrypoint).filterMap fun answer =>
      match answer.outcome with
      | .ok (.unresolved failure) => some failure.specifier
      | _ => none, ?_⟩
    intro earlier _ failure h _
    split at h
    · rename_i answer hanswer
      refine List.mem_filterMap.2 ⟨answer, ?_, by simp [h]⟩
      rcases Option.or_eq_some_iff.1 hanswer with hget | ⟨_, hlast⟩
      · exact List.mem_of_getElem? hget
      · exact List.mem_of_getLast? hlast
    · simp at h

/-- What is left to do for an entrypoint, and what was done. -/
structure Task where
  entrypoint : String
  /-- The specifiers put aside at each attempt so far. -/
  earlier : List (List String)
  /-- The specifiers put aside now. -/
  deferred : List String
  /-- What was skipped so far. -/
  skips : List Skip

namespace Task

/-- The task before its first attempt. -/
def start (entrypoint : String) (seed : List String) : Task := ⟨entrypoint, [], seed, []⟩

/-- What comes of an attempt. -/
inductive Progress
  /-- Another attempt is needed. -/
  | again (task : Task)
  /-- The pack is complete. -/
  | done (result : EntrypointResult)

/-- The task after an attempt that stopped at a specifier. -/
def putAside (t : Task) (specifier : String) (referrer : Url) (candidates : List String) : Task where
  entrypoint := t.entrypoint
  earlier := t.earlier ++ [t.deferred]
  deferred := t.deferred ++ [specifier]
  skips := t.skips ++ [⟨specifier, referrer, candidates⟩]

/-- What a task does with a pack, or with the entry at which making it stopped. -/
def handle (t : Task) : PackOutcome → Run Progress
  | .packed pack =>
    pure (.done ⟨t.entrypoint, pack.files.keys, t.skips, pack.resolutions⟩)
  | .unresolved ⟨specifier, none, candidates⟩ =>
    Run.fail (.unresolved specifier none candidates)
  | .unresolved ⟨specifier, some referrer, candidates⟩ =>
    if specifier ∈ t.deferred then Run.fail (.repeatedStop specifier referrer.href)
    else ⟨[.skipping specifier referrer.pathname],
      .ok (.again (t.putAside specifier referrer candidates))⟩

/-- One attempt, whatever makes the pack. -/
def attempt (pack : Packing) (t : Task) : Run Progress := do
  Run.note (.packing t.entrypoint (t.earlier.length + 1) t.deferred.length)
  let outcome ← pack t.entrypoint t.earlier t.deferred
  t.handle outcome

/-- One attempt with a packer. -/
def step (packer : Packer) (t : Task) : Run Progress := t.attempt packer.pack

theorem outcome_attempt (pack : Packing) (t : Task) :
    (t.attempt pack).outcome =
      (pack t.entrypoint t.earlier t.deferred).outcome.bind fun outcome => (t.handle outcome).outcome := by
  rw [attempt, Run.outcome_bind, Run.outcome_note]
  exact Run.outcome_bind _ _

/-- The specifiers at which a packer stops from an entrypoint. -/
noncomputable def stops (packer : Packer) (entrypoint : String) : List String :=
  Classical.choose (packer.bounded entrypoint)

/-- A task that needs another attempt has put aside one more specifier, at which the packer stops. -/
theorem eq_putAside_of_step {packer : Packer} {t t' : Task}
    (h : (t.step packer).outcome = .ok (.again t')) :
    ∃ specifier referrer candidates, specifier ∈ stops packer t.entrypoint ∧
      specifier ∉ t.deferred ∧ t' = t.putAside specifier referrer candidates := by
  rw [step, outcome_attempt] at h
  cases hpack : (packer.pack t.entrypoint t.earlier t.deferred).outcome with
  | error fault => simp [hpack, Except.bind] at h
  | ok outcome =>
    rw [hpack, Except.bind] at h
    match outcome with
    | .packed pack => simp [handle] at h
    | .unresolved ⟨specifier, none, candidates⟩ => simp [handle] at h
    | .unresolved ⟨specifier, some referrer, candidates⟩ =>
      simp only [handle] at h
      split at h
      · simp at h
      · rename_i hnew
        refine ⟨specifier, referrer, candidates, ?_, hnew, ?_⟩
        · exact Classical.choose_spec (packer.bounded t.entrypoint) _ _ _ hpack rfl
        · simpa using h.symm

/-- What becomes of a task. -/
structure Settled where
  /-- The task as it was before its last attempt. -/
  task : Task
  notes : List Note
  outcome : Except Fault EntrypointResult

/-- All attempts of a task. -/
def settle (packer : Packer) (t : Task) : Settled :=
  let attempt := t.step packer
  match _ : attempt.outcome with
  | .error fault => ⟨t, attempt.notes, .error fault⟩
  | .ok (.done result) => ⟨t, attempt.notes, .ok result⟩
  | .ok (.again t') =>
    let settled := settle packer t'
    { settled with notes := attempt.notes ++ settled.notes }
termination_by PackJob.unvisited (stops packer t.entrypoint) t.deferred
decreasing_by
  obtain ⟨specifier, referrer, candidates, hmem, hnew, rfl⟩ := eq_putAside_of_step ‹_›
  have hswap : PackJob.unvisited (stops packer t.entrypoint) (t.deferred ++ [specifier]) =
      PackJob.unvisited (stops packer t.entrypoint) (specifier :: t.deferred) := by
    unfold PackJob.unvisited
    congr 2
    funext q
    simp [or_comm]
  simp only [putAside]
  rw [hswap]
  exact PackJob.unvisited_cons_lt hmem hnew

/-- The specifiers put aside at each attempt. -/
def Settled.calls (s : Settled) : List (List String) := s.task.earlier ++ [s.task.deferred]

end Task

end ModuleReach
