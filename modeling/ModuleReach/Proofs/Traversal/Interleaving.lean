import Mathlib.Data.List.Nodup
import Mathlib.Data.List.Sort
import ModuleReach.Proofs.Traversal.Outcome

/-!
# Tasks in any order

The tasks of a traversal need not wait for each other.  Whenever some of them are not settled, any one of these may make
its next attempt.  A schedule says which task makes an attempt at each turn.  A task has its own copy of what is put aside
and of what was skipped, so all that an attempt changes is its task.  Hence a task gets as far as it has had turns,
whatever the other tasks did in the meantime and whether or not they failed, and all schedules that settle every task end
alike.

## Main definitions

* `Traversal.Stage` — a task that needs another attempt, or one that is settled.
* `Traversal.State` — all tasks at a time, with the calls of the packer so far in the order of time.
* `Traversal.Step`, `Traversal.Runs` — one turn, and the turns of a schedule.
* `Traversal.Stage.after?` — a task on its own, after a number of turns.

## Main results

* `Traversal.Runs.getElem?_stages` — a task after a schedule is the task on its own after as many turns.
* `Traversal.exists_runs`, `Traversal.Runs.perm` — the order of the turns does not matter.
* `Traversal.run_interleaved` — every complete schedule ends as the tasks do one after the other.
-/

namespace ModuleReach.Traversal

variable {pack : Packing}

/-! ### One task -/

/-- How far a task has come. -/
inductive Stage
  /-- The task needs another attempt; the notes are those of its attempts so far. -/
  | waiting (notes : List Note) (task : Task)
  | settled (settled : Task.Settled)

namespace Stage

/-- The entrypoint of the task. -/
def entrypoint : Stage → String
  | waiting _ task => task.entrypoint
  | settled s => s.task.entrypoint

/-- The specifiers put aside at each attempt so far. -/
def calls : Stage → List (List String)
  | waiting _ task => task.earlier
  | settled s => s.calls

/-- What has become of a task that is settled. -/
def settled? : Stage → Option Task.Settled
  | waiting _ _ => none
  | settled s => some s

/-- How far a task has come by what its last attempt came to. -/
def reached (notes : List Note) (task : Task) : Except Fault Task.Progress → Stage
  | .ok (.again next) => waiting notes next
  | .ok (.done result) => settled ⟨task, notes, .ok result⟩
  | .error cause => settled ⟨task, notes, .error cause⟩

/-- A task after one attempt more. -/
def attempted (pack : Packing) (notes : List Note) (task : Task) : Stage :=
  reached (notes ++ (task.attempt pack).notes) task (task.attempt pack).outcome

/-- A task after one turn, if it needs another attempt. -/
def next? (pack : Packing) : Stage → Option Stage
  | waiting notes task => some (attempted pack notes task)
  | settled _ => none

/-- A task on its own after a number of turns, if it is not settled before. -/
def after? (pack : Packing) (stage : Stage) : Nat → Option Stage
  | 0 => some stage
  | k + 1 => (stage.next? pack).bind (after? pack · k)

/-- An attempt stays with its entrypoint, and is one call more. -/
theorem attempted_spec (pack : Packing) (notes : List Note) (task : Task) :
    (attempted pack notes task).entrypoint = task.entrypoint ∧
      (attempted pack notes task).calls = task.earlier ++ [task.deferred] := by
  unfold attempted
  rcases Task.attempt_cases pack task with ⟨outcome, -, hattempt⟩ | ⟨skip, -, -, hattempt⟩
  · cases outcome <;> (rw [hattempt]; exact ⟨rfl, rfl⟩)
  · rw [hattempt]
    exact ⟨rfl, rfl⟩

theorem exists_eq_settled {stage : Stage} (h : stage.settled?.isSome) : ∃ s, stage = settled s := by
  cases stage with
  | waiting notes task => cases h
  | settled s => exact ⟨s, rfl⟩

/-- A task that is settled has no more turns. -/
theorem after?_settled {s : Task.Settled} {k : Nat} {stage : Stage} (h : (settled s).after? pack k = some stage) :
    stage = settled s := by
  cases k with
  | zero => exact (Option.some.inj h).symm
  | succ k => cases h

/-- On its own, a task is settled in one way. -/
theorem after?_inj {stage : Stage} {k k' : Nat} {s s' : Task.Settled} (h : stage.after? pack k = some (settled s))
    (h' : stage.after? pack k' = some (settled s')) : s = s' := by
  induction k generalizing stage k' with
  | zero =>
    cases Option.some.inj h
    exact (settled.inj (after?_settled h')).symm
  | succ k ih =>
    cases k' with
    | zero =>
      cases Option.some.inj h'
      cases h
    | succ k' =>
      obtain ⟨next, hnext, hafter⟩ := Option.bind_eq_some_iff.1 h
      obtain ⟨next', hnext', hafter'⟩ := Option.bind_eq_some_iff.1 h'
      cases hnext.symm.trans hnext'
      exact ih hafter hafter'

/-- With a packer a task is settled after some turns, as it is by all its attempts at once. -/
theorem exists_after?_settle (packer : Packer) (task : Task) :
    ∃ k, ∀ notes, (waiting notes task).after? packer.pack k =
      some (settled { task.settle packer with notes := notes ++ (task.settle packer).notes }) := by
  fun_induction Task.settle packer task with
  | case1 t attempt cause hattempt =>
    refine ⟨1, fun notes => ?_⟩
    change some (reached _ t attempt.outcome) = _
    rw [hattempt]
    rfl
  | case2 t attempt result hattempt =>
    refine ⟨1, fun notes => ?_⟩
    change some (reached _ t attempt.outcome) = _
    rw [hattempt]
    rfl
  | case3 t attempt t' hattempt s ih =>
    obtain ⟨k, hk⟩ := ih
    refine ⟨k + 1, fun notes => ?_⟩
    change (reached (notes ++ attempt.notes) t attempt.outcome).after? packer.pack k = _
    rw [hattempt, reached, hk, List.append_assoc]

end Stage

/-! ### All tasks -/

/-- All tasks at a time. -/
structure State where
  /-- How far each task has come, in the order of the entrypoints. -/
  stages : List Stage
  /-- The calls of the packer so far, in the order of time: the entrypoint, and what was put aside. -/
  calls : List (String × List String)

namespace State

/-- Before the first turn, each task has a copy of what is put aside from the start. -/
def start (texts seed : List String) : State :=
  ⟨(entrypoints texts).map fun entrypoint => .waiting [] (Task.start entrypoint seed), []⟩

/-- What was put aside at each call for an entrypoint. -/
def callsOf (s : State) (entrypoint : String) : List (List String) :=
  (s.calls.filter (·.1 = entrypoint)).map (·.2)

/-- Whether every task is settled. -/
def IsComplete (s : State) : Prop := ∀ stage ∈ s.stages, stage.settled?.isSome

instance (s : State) : Decidable s.IsComplete :=
  inferInstanceAs (Decidable (∀ stage ∈ s.stages, stage.settled?.isSome))

/-- The report on the tasks that are settled, in the order of the entrypoints, or the fault of the first of them that
failed. -/
def result (s : State) : Except Fault Report := (conclude (s.stages.filterMap Stage.settled?)).outcome

end State

/-- One turn: a task that is not settled makes an attempt, whatever the others do. -/
inductive Step (pack : Packing) (s : State) (i : Nat) : State → Prop
  | attempt {notes : List Note} {task : Task} (waits : s.stages[i]? = some (.waiting notes task)) :
    Step pack s i ⟨s.stages.set i (Stage.attempted pack notes task), s.calls ++ [(task.entrypoint, task.deferred)]⟩

/-- The turns of a schedule, one after the other. -/
inductive Runs (pack : Packing) : State → List Nat → State → Prop
  | done (s : State) : Runs pack s [] s
  | turn {s s' s'' : State} {i : Nat} {schedule : List Nat} (step : Step pack s i s')
    (rest : Runs pack s' schedule s'') : Runs pack s (i :: schedule) s''

variable {s s' s'' : State} {i : Nat} {schedule : List Nat}

/-! ### What a turn does to the tasks -/

/-- A turn takes its task one attempt further and leaves all others as they are. -/
theorem Step.stages_eq (h : Step pack s i s') :
    ∃ stage, (s.stages[i]?).bind (·.next? pack) = some stage ∧ s'.stages = s.stages.set i stage := by
  obtain ⟨hwaits⟩ := h
  rw [hwaits]
  exact ⟨_, rfl, rfl⟩

theorem Step.getElem?_of_ne (h : Step pack s i s') {j : Nat} (hne : i ≠ j) : s'.stages[j]? = s.stages[j]? := by
  obtain ⟨stage, -, hstages⟩ := h.stages_eq
  rw [hstages, List.getElem?_set_ne hne]

theorem Step.getElem?_self (h : Step pack s i s') : s'.stages[i]? = (s.stages[i]?).bind (·.next? pack) := by
  obtain ⟨stage, hnext, hstages⟩ := h.stages_eq
  obtain ⟨before, hbefore, -⟩ := Option.bind_eq_some_iff.1 hnext
  obtain ⟨hlt, -⟩ := List.getElem?_eq_some_iff.1 hbefore
  rw [hstages, hnext, List.getElem?_set_self hlt]

/-- A task that is not settled has its turn whenever it comes. -/
theorem exists_step_iff : (∃ s', Step pack s i s') ↔ ∃ stage, (s.stages[i]?).bind (·.next? pack) = some stage := by
  constructor
  · rintro ⟨s', h⟩
    obtain ⟨stage, hnext, -⟩ := h.stages_eq
    exact ⟨stage, hnext⟩
  · rintro ⟨stage, hnext⟩
    obtain ⟨before, hbefore, hnext⟩ := Option.bind_eq_some_iff.1 hnext
    cases before with
    | waiting notes task => exact ⟨_, .attempt hbefore⟩
    | settled settled => cases hnext

/-- **A task after a schedule is the task on its own after as many turns as it had.** -/
theorem Runs.getElem?_stages (h : Runs pack s schedule s') (j : Nat) :
    s'.stages[j]? = (s.stages[j]?).bind (·.after? pack (schedule.count j)) := by
  induction h with
  | done s => cases s.stages[j]? <;> rfl
  | @turn s s' s'' i schedule hstep _ ih =>
    by_cases hij : i = j
    · subst hij
      rw [ih, hstep.getElem?_self, List.count_cons_self, Option.bind_assoc]
      rfl
    · rw [ih, hstep.getElem?_of_ne hij, List.count_cons_of_ne hij]

/-- A schedule can be followed if it gives each task no more turns than it takes. -/
theorem exists_runs (h : ∀ i ∈ schedule, ((s.stages[i]?).bind (·.after? pack (schedule.count i))).isSome) :
    ∃ s', Runs pack s schedule s' := by
  induction schedule generalizing s with
  | nil => exact ⟨s, .done s⟩
  | cons i schedule ih =>
    obtain ⟨last, hlast⟩ := Option.isSome_iff_exists.1 (h i List.mem_cons_self)
    rw [List.count_cons_self] at hlast
    obtain ⟨before, hbefore, hafter⟩ := Option.bind_eq_some_iff.1 hlast
    obtain ⟨next, hnext, -⟩ := Option.bind_eq_some_iff.1 hafter
    obtain ⟨s', hstep⟩ : ∃ s', Step pack s i s' :=
      exists_step_iff.2 ⟨next, Option.bind_eq_some_iff.2 ⟨before, hbefore, hnext⟩⟩
    obtain ⟨s'', hrest⟩ : ∃ s'', Runs pack s' schedule s'' := by
      refine ih fun j hj => ?_
      by_cases hij : i = j
      · subst hij
        rw [hstep.getElem?_self, Option.bind_assoc]
        exact Option.isSome_iff_exists.2 ⟨last, hlast⟩
      · have hold := h j (List.mem_cons_of_mem _ hj)
        rw [List.count_cons_of_ne hij] at hold
        rwa [hstep.getElem?_of_ne hij]
    exact ⟨s'', .turn hstep hrest⟩

theorem Step.length_stages (h : Step pack s i s') : s'.stages.length = s.stages.length := by
  obtain ⟨stage, -, hstages⟩ := h.stages_eq
  rw [hstages, List.length_set]

theorem Step.lt_length (h : Step pack s i s') : i < s.stages.length := by
  obtain ⟨hwaits⟩ := h
  exact (List.getElem?_eq_some_iff.1 hwaits).1

theorem Runs.length_stages (h : Runs pack s schedule s') : s'.stages.length = s.stages.length := by
  induction h with
  | done s => rfl
  | turn hstep _ ih => exact ih.trans hstep.length_stages

/-- Only tasks that there are have turns. -/
theorem Runs.lt_length_of_mem (h : Runs pack s schedule s') (hmem : i ∈ schedule) : i < s.stages.length := by
  induction h with
  | done s => cases hmem
  | turn hstep _ ih =>
    rcases List.mem_cons.1 hmem with rfl | hrest
    · exact hstep.lt_length
    · exact hstep.length_stages ▸ ih hrest

/-- The same turns in another order lead to the same tasks. -/
theorem Runs.perm (h : Runs pack s schedule s') {schedule' : List Nat} (hperm : schedule'.Perm schedule) :
    ∃ s'', Runs pack s schedule' s'' ∧ s''.stages = s'.stages := by
  obtain ⟨s'', hs''⟩ : ∃ s'', Runs pack s schedule' s'' := by
    refine exists_runs fun i hi => ?_
    have hlt : i < s'.stages.length := h.length_stages ▸ h.lt_length_of_mem (hperm.mem_iff.1 hi)
    rw [hperm.count_eq, ← h.getElem?_stages, List.getElem?_eq_getElem hlt]
    rfl
  refine ⟨s'', hs'', List.ext_getElem? fun j => ?_⟩
  rw [hs''.getElem?_stages, h.getElem?_stages, hperm.count_eq]

/-- All complete schedules lead to the same tasks. -/
theorem Runs.stages_eq_of_isComplete (h : Runs pack s schedule s') (hcomplete : s'.IsComplete) {schedule' : List Nat}
    (h' : Runs pack s schedule' s'') (hcomplete' : s''.IsComplete) : s''.stages = s'.stages := by
  refine List.ext_getElem (h'.length_stages.trans h.length_stages.symm) fun j hj' hj => ?_
  obtain ⟨settled, hsettled⟩ := Stage.exists_eq_settled (hcomplete _ (List.getElem_mem hj))
  obtain ⟨settled', hsettled'⟩ := Stage.exists_eq_settled (hcomplete' _ (List.getElem_mem hj'))
  have hafter := h.getElem?_stages j
  have hafter' := h'.getElem?_stages j
  rw [List.getElem?_eq_getElem hj, hsettled] at hafter
  rw [List.getElem?_eq_getElem hj', hsettled'] at hafter'
  obtain ⟨stage, hstage, hafter⟩ := Option.bind_eq_some_iff.1 hafter.symm
  obtain ⟨stage', hstage', hafter'⟩ := Option.bind_eq_some_iff.1 hafter'.symm
  cases hstage.symm.trans hstage'
  rw [hsettled, hsettled', Stage.after?_inj hafter hafter']

/-! ### The calls -/

/-- Each entrypoint has one task. -/
theorem nodup_entrypoints (texts : List String) : (entrypoints texts).Nodup := nodup_eraseDups _

/-- The tasks are those for some entrypoints, and have made the calls that were made for them. -/
structure State.Consistent (entrypoints : List String) (s : State) : Prop where
  entrypoints_eq : s.stages.map Stage.entrypoint = entrypoints
  calls_eq : ∀ stage ∈ s.stages, s.callsOf stage.entrypoint = stage.calls

theorem State.consistent_start (texts seed : List String) : (start texts seed).Consistent (entrypoints texts) where
  entrypoints_eq := by
    rw [start, List.map_map]
    exact List.map_id _
  calls_eq stage hstage := by
    obtain ⟨entrypoint, -, rfl⟩ := List.mem_map.1 hstage
    rfl

theorem State.callsOf_append (s : State) (stages : List Stage) (entrypoint entrypoint' : String)
    (deferred : List String) :
    callsOf ⟨stages, s.calls ++ [(entrypoint', deferred)]⟩ entrypoint =
      if entrypoint' = entrypoint then s.callsOf entrypoint ++ [deferred] else s.callsOf entrypoint := by
  unfold callsOf
  split <;> simp_all

/-- A turn for one entrypoint is a call for it, and none for any other one. -/
theorem Step.consistent {entrypoints : List String} (hnodup : entrypoints.Nodup) (h : Step pack s i s')
    (hs : s.Consistent entrypoints) : s'.Consistent entrypoints := by
  obtain @⟨notes, task, hwaits⟩ := h
  obtain ⟨hlt, -⟩ := List.getElem?_eq_some_iff.1 hwaits
  obtain ⟨hentrypoint, hcalls⟩ := Stage.attempted_spec pack notes task
  have hturn : (s.stages.map Stage.entrypoint)[i]? = some task.entrypoint := by
    rw [List.getElem?_map, hwaits]
    rfl
  constructor
  · obtain ⟨_, hget⟩ := List.getElem?_eq_some_iff.1 hturn
    rw [List.map_set, hentrypoint, ← hget, List.set_getElem_self]
    exact hs.entrypoints_eq
  · intro stage hstage
    obtain ⟨j, hj⟩ := List.mem_iff_getElem?.1 hstage
    rw [State.callsOf_append]
    by_cases hij : i = j
    · subst hij
      rw [List.getElem?_set_self hlt] at hj
      cases hj
      have hbefore : s.callsOf task.entrypoint = task.earlier := hs.calls_eq _ (List.mem_of_getElem? hwaits)
      rw [hentrypoint, if_pos rfl, hbefore, hcalls]
    · rw [List.getElem?_set_ne hij] at hj
      -- No two tasks have one entrypoint, so the call was for another one.
      have hother : task.entrypoint ≠ stage.entrypoint := by
        intro heq
        have hsame : (s.stages.map Stage.entrypoint)[i]? = (s.stages.map Stage.entrypoint)[j]? := by
          rw [hturn, List.getElem?_map, hj, heq]
          rfl
        exact hij (List.getElem?_inj (by simpa using hlt) (hs.entrypoints_eq ▸ hnodup) |>.1 hsame)
      rw [if_neg hother]
      exact hs.calls_eq stage (List.mem_of_getElem? hj)

theorem Runs.consistent {entrypoints : List String} (hnodup : entrypoints.Nodup) (h : Runs pack s schedule s')
    (hs : s.Consistent entrypoints) : s'.Consistent entrypoints := by
  induction h with
  | done s => exact hs
  | turn hstep _ ih => exact ih (hstep.consistent hnodup hs)

/-- The calls for each entrypoint can be read from its task. -/
theorem State.Consistent.callsOf_eq {entrypoints : List String} (hs : s.Consistent entrypoints)
    (hs' : s'.Consistent entrypoints) (hstages : s'.stages = s.stages) :
    ∀ entrypoint ∈ entrypoints, s'.callsOf entrypoint = s.callsOf entrypoint := by
  intro entrypoint hentrypoint
  rw [← hs.entrypoints_eq] at hentrypoint
  obtain ⟨stage, hstage, rfl⟩ := List.mem_map.1 hentrypoint
  rw [hs.calls_eq stage hstage, hs'.calls_eq stage (hstages ▸ hstage)]

/-! ### One task after the other -/

/-- The schedule that gives each task in turn all its turns. -/
def inOrder (turns : Nat → Nat) (n : Nat) : List Nat := (List.range n).flatMap fun i => List.replicate (turns i) i

theorem count_inOrder (turns : Nat → Nat) (n j : Nat) :
    (inOrder turns n).count j = if j < n then turns j else 0 := by
  unfold inOrder
  induction n with
  | zero => rfl
  | succ n ih =>
    rw [List.range_succ, List.flatMap_append, List.count_append, ih, List.flatMap_singleton, List.count_replicate]
    grind

theorem State.getElem?_start {texts seed : List String} {j : Nat} (hj : j < (entrypoints texts).length) :
    (State.start texts seed).stages[j]? = some (.waiting [] (Task.start (entrypoints texts)[j] seed)) := by
  rw [State.start, List.getElem?_map, List.getElem?_eq_getElem hj]
  rfl

theorem Runs.length_eq {texts seed : List String} (h : Runs pack (State.start texts seed) schedule s) :
    s.stages.length = (entrypoints texts).length := by
  rw [h.length_stages, State.start, List.length_map]

/-- With a packer every traversal has a complete schedule. -/
theorem exists_complete (packer : Packer) (texts seed : List String) :
    ∃ schedule s, Runs packer.pack (State.start texts seed) schedule s ∧ s.IsComplete := by
  choose turns hturns using Stage.exists_after?_settle packer
  let n := (entrypoints texts).length
  let schedule := inOrder (fun j => turns (Task.start ((entrypoints texts)[j]?.getD "") seed)) n
  have hafter : ∀ j < n, ∃ settled, ((State.start texts seed).stages[j]?).bind
      (·.after? packer.pack (schedule.count j)) = some (.settled settled) := by
    intro j hj
    have hj' : j < (entrypoints texts).length := hj
    rw [count_inOrder, if_pos hj, State.getElem?_start hj', Option.bind_some, List.getElem?_eq_getElem hj',
      Option.getD_some, hturns]
    exact ⟨_, rfl⟩
  obtain ⟨s, hs⟩ : ∃ s, Runs packer.pack (State.start texts seed) schedule s := by
    refine exists_runs fun j hj => ?_
    have hlt : j < n := by
      have hcount : 0 < schedule.count j := List.count_pos_iff.2 hj
      rw [count_inOrder] at hcount
      by_contra hge
      simp [hge] at hcount
    obtain ⟨settled, hsettled⟩ := hafter j hlt
    rw [hsettled]
    rfl
  refine ⟨schedule, s, hs, fun stage hstage => ?_⟩
  obtain ⟨j, hj, rfl⟩ := List.mem_iff_getElem.1 hstage
  obtain ⟨settled, hsettled⟩ := hafter j (lt_of_lt_of_eq hj hs.length_eq)
  have hget := hs.getElem?_stages j
  rw [hsettled, List.getElem?_eq_getElem hj] at hget
  rw [Option.some.inj hget]
  rfl

/-- With a packer all complete schedules settle the tasks as they are settled one after the other. -/
theorem Runs.stages_eq_settle {packer : Packer} {texts seed : List String}
    (h : Runs packer.pack (State.start texts seed) schedule s) (hcomplete : s.IsComplete) :
    s.stages = (settle packer (entrypoints texts) seed).map .settled := by
  refine List.ext_getElem (by simp [settle, h.length_eq]) fun j hj hj' => ?_
  have hlt : j < (entrypoints texts).length := lt_of_lt_of_eq hj h.length_eq
  obtain ⟨settled, hsettled⟩ := Stage.exists_eq_settled (hcomplete _ (List.getElem_mem hj))
  obtain ⟨k, hk⟩ := Stage.exists_after?_settle packer (Task.start (entrypoints texts)[j] seed)
  have hafter := h.getElem?_stages j
  rw [List.getElem?_eq_getElem hj, hsettled, State.getElem?_start hlt, Option.bind_some] at hafter
  rw [hsettled, Stage.after?_inj hafter.symm (hk [])]
  simp [settle]

/-- **The order of the attempts does not matter.**  Whatever makes the packs, let the tasks for some entrypoints, each
with its own copy of what is put aside from the start, make their attempts by some schedule.

At any time, a task is as far as it would be on its own after as many turns, and if it is not settled it can have
another turn: no failure of other tasks has stopped or changed it, and a turn changes no other task.

Once all tasks are settled, the same turns could have been made by one task after the other, with the same
calls for each entrypoint and the same result.  Any other complete schedule has these calls and this result too.

With a packer there is a complete schedule, and each one has the result of the traversal and the calls of its tasks;
so if tasks fail, the fault is that of the first of them in the order of the entrypoints. -/
theorem run_interleaved (pack : Packing) (texts seed : List String) :
    (∀ schedule s, Runs pack (State.start texts seed) schedule s → ∀ i,
      s.stages[i]? = ((State.start texts seed).stages[i]?).bind (·.after? pack (schedule.count i)) ∧
      ∀ notes task, s.stages[i]? = some (.waiting notes task) →
        ∃ s', Step pack s i s' ∧ ∀ j, i ≠ j → s'.stages[j]? = s.stages[j]?) ∧
    (∀ schedule s, Runs pack (State.start texts seed) schedule s → s.IsComplete →
      (∃ ordered s', ordered.Perm schedule ∧ ordered.Pairwise (· ≤ ·) ∧ Runs pack (State.start texts seed) ordered s' ∧
        s'.result = s.result ∧ ∀ entrypoint ∈ entrypoints texts, s'.callsOf entrypoint = s.callsOf entrypoint) ∧
      ∀ schedule' s', Runs pack (State.start texts seed) schedule' s' → s'.IsComplete →
        s'.result = s.result ∧ ∀ entrypoint ∈ entrypoints texts, s'.callsOf entrypoint = s.callsOf entrypoint) ∧
    ∀ packer : Packer, packer.pack = pack →
      (∃ schedule s, Runs pack (State.start texts seed) schedule s ∧ s.IsComplete) ∧
      ∀ schedule s, Runs pack (State.start texts seed) schedule s → s.IsComplete →
        s.result = (run packer texts seed).outcome ∧
        (∀ entrypoint ∈ entrypoints texts,
          s.callsOf entrypoint = ((Task.start entrypoint seed).settle packer).calls) ∧
        ∀ before entrypoint after cause, entrypoints texts = before ++ entrypoint :: after →
          (∀ earlier ∈ before, ∃ result, outcomeAt packer seed earlier = .ok result) →
          outcomeAt packer seed entrypoint = .error cause → s.result = .error cause := by
  have hconsistent : ∀ {schedule s}, Runs pack (State.start texts seed) schedule s →
      s.Consistent (entrypoints texts) := fun h =>
    h.consistent (nodup_entrypoints texts) (State.consistent_start texts seed)
  refine ⟨?_, ?_, ?_⟩
  · intro schedule s h i
    refine ⟨h.getElem?_stages i, fun notes task hwaits => ?_⟩
    exact ⟨_, .attempt hwaits, fun j hne => Step.getElem?_of_ne (.attempt hwaits) hne⟩
  · intro schedule s h hcomplete
    refine ⟨?_, ?_⟩
    · have hperm := List.perm_insertionSort (· ≤ ·) schedule
      obtain ⟨s', h', hstages⟩ := h.perm hperm
      refine ⟨_, s', hperm, List.pairwise_insertionSort (· ≤ ·) schedule, h', ?_,
        (hconsistent h).callsOf_eq (hconsistent h') hstages⟩
      rw [State.result, hstages, State.result]
    · intro schedule' s' h' hcomplete'
      have hstages := h.stages_eq_of_isComplete hcomplete h' hcomplete'
      refine ⟨?_, (hconsistent h).callsOf_eq (hconsistent h') hstages⟩
      rw [State.result, hstages, State.result]
  · rintro packer rfl
    refine ⟨exists_complete packer texts seed, fun schedule s h hcomplete => ?_⟩
    have hstages := h.stages_eq_settle hcomplete
    have hsettled : s.stages.filterMap Stage.settled? = settle packer (entrypoints texts) seed := by
      rw [hstages, List.filterMap_map]
      exact List.filterMap_some
    have hresult : s.result = (run packer texts seed).outcome := by
      rw [State.result, hsettled, run, Run.outcome_noting]
    refine ⟨hresult, ?_, ?_⟩
    · intro entrypoint hentrypoint
      have hstage : .settled ((Task.start entrypoint seed).settle packer) ∈ s.stages := by
        rw [hstages]
        exact List.mem_map_of_mem (List.mem_map_of_mem hentrypoint)
      obtain ⟨skips, htask, -⟩ := Task.exists_settle packer entrypoint seed
      have hentrypoint : ((Task.start entrypoint seed).settle packer).task.entrypoint = entrypoint := by
        rw [htask]
        rfl
      have hcalls := (hconsistent h).calls_eq _ hstage
      rwa [Stage.entrypoint, hentrypoint] at hcalls
    · intro before entrypoint after cause htexts hbefore hcause
      rw [hresult]
      exact outcome_run_of_first htexts hbefore hcause

/-- Packs of which one cannot be made, and another one stops once. -/
def halting : Packing := fun entrypoint _ deferred =>
  if entrypoint = "/a.js" then Run.fail (.source "/a.js" "not a text")
  else if "./x.js" ∈ deferred then pure (.packed ⟨∅, ∅⟩)
  else pure (.unresolved ⟨"./x.js", some (.ofPath "memory" "/b.js"), []⟩)

/-- One task fails between the two attempts of another one.  The other one is settled all the same, and every complete
schedule ends in the fault. -/
theorem run_interleaved_halting :
    (∃ s, Runs halting (State.start ["/a.js", "/b.js"] []) [1, 0, 1] s ∧ s.IsComplete ∧
      s.calls = [("/b.js", []), ("/a.js", []), ("/b.js", ["./x.js"])]) ∧
    ∀ schedule s, Runs halting (State.start ["/a.js", "/b.js"] []) schedule s → s.IsComplete →
      s.result = .error (.source "/a.js" "not a text") := by
  have hentrypoints : entrypoints ["/a.js", "/b.js"] = ["/a.js", "/b.js"] := by decide +kernel
  have hruns : ∃ s, Runs halting (State.start ["/a.js", "/b.js"] []) [1, 0, 1] s ∧ s.IsComplete ∧
      s.calls = [("/b.js", []), ("/a.js", []), ("/b.js", ["./x.js"])] ∧
      s.result = .error (.source "/a.js" "not a text") := by
    rw [State.start, hentrypoints]
    exact ⟨_, .turn (.attempt rfl) (.turn (.attempt rfl) (.turn (.attempt rfl) (.done _))), by decide, rfl, rfl⟩
  obtain ⟨s, hs, hcomplete, hcalls, hresult⟩ := hruns
  refine ⟨⟨s, hs, hcomplete, hcalls⟩, fun schedule s' hs' hcomplete' => ?_⟩
  have hsame := ((run_interleaved halting ["/a.js", "/b.js"] []).2.1 _ s hs hcomplete).2 schedule s' hs' hcomplete'
  exact hsame.1.trans hresult

end ModuleReach.Traversal
