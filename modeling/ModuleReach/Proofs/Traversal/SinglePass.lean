import ModuleReach.Store.Memory
import ModuleReach.Traversal.Task
import ModuleReach.Proofs.Pack.Failure

/-!
# One pass is enough

A task starts over each time that making a pack stops, with one more specifier put aside.  All its attempts
together do what one sweep does that starts with the same specifiers put aside: it finds the same files
in the same order, with the same resolutions, and skips the same specifiers in the same order, or it ends
in the same fault.

The number of attempts follows, since each but the last one skips a specifier.

## Main results

* `Task.settle_eq_sweep` — an honest job settles a task as one sweep does.
* `Task.length_earlier_settle` — one attempt for each skipped specifier comes before the last.
* `PackJob.fault_of_sweep` — the faults in which a sweep through a closed store can end.
* `Task.settle_standard` — all of this for a store in memory and the standard resolver.
-/

namespace ModuleReach

/-- What a sweep for an entrypoint finds. -/
def Swept.result (entrypoint : String) (swept : Swept Packed) : Except Fault EntrypointResult :=
  swept.outcome.map fun pack => ⟨entrypoint, pack.files.keys, swept.tally.skips, pack.resolutions⟩

theorem Swept.outcome_of_result {swept : Swept Packed} {entrypoint : String} {cause : Fault}
    (h : swept.result entrypoint = .error cause) : swept.outcome = .error cause := by
  rw [result] at h
  cases houtcome : swept.outcome with
  | error cause' =>
    rw [houtcome] at h
    cases h
    rfl
  | ok pack =>
    rw [houtcome] at h
    cases h

namespace Task

/-- What a task has put aside and skipped. -/
def tally (t : Task) : Tally := ⟨t.deferred, t.skips⟩

section Step

variable {packer : Packer} {t : Task}

theorem outcome_step_error {cause : Fault}
    (h : (packer.pack t.entrypoint t.earlier t.deferred).outcome = .error cause) :
    (t.step packer).outcome = .error cause := by
  rw [step, outcome_attempt, h]
  rfl

theorem outcome_step_ok {outcome : PackOutcome}
    (h : (packer.pack t.entrypoint t.earlier t.deferred).outcome = .ok outcome) :
    (t.step packer).outcome = (t.handle outcome).outcome := by
  rw [step, outcome_attempt, h]
  rfl

end Step

/-- An attempt of an honest job either ends the task as a sweep from there ends, or leaves a task from which a
sweep does the same. -/
theorem step_cases {job : PackJob} (hjob : job.Honest) (t : Task) :
    (∃ outcome, job.sweep t.entrypoint t.tally = ⟨t.tally, outcome⟩ ∧
      (t.step job.packer).outcome =
        ((⟨t.tally, outcome⟩ : Swept Packed).result t.entrypoint).map .done) ∨
    ∃ specifier referrer candidates,
      (t.step job.packer).outcome = .ok (.again (t.putAside specifier referrer candidates)) ∧
        job.sweep t.entrypoint t.tally =
          job.sweep t.entrypoint (t.putAside specifier referrer candidates).tally := by
  have hjob' := hjob.deferring t.deferred
  have hsub : (job.deferring t.deferred).deferred ⊆ t.tally.deferred := List.Subset.refl _
  -- The attempt makes a pack with the specifiers put aside so far; a sweep asks the tally for them.
  cases hpack : ((job.deferring t.deferred).pack t.entrypoint).outcome with
  | error cause =>
    have hended : ((job.deferring t.deferred).pack t.entrypoint).outcome =
        (Except.error cause : Except Fault Packed).map .packed := hpack
    have hswept := PackJob.sweep_of_settled hjob' hsub hended
    rw [PackJob.sweep_deferring] at hswept
    exact .inl ⟨.error cause, hswept, outcome_step_error hpack⟩
  | ok outcome =>
    have hstep : (t.step job.packer).outcome = (t.handle outcome).outcome := outcome_step_ok hpack
    match outcome with
    | .packed pack =>
      have hended : ((job.deferring t.deferred).pack t.entrypoint).outcome =
          (Except.ok pack : Except Fault Packed).map .packed := hpack
      have hswept := PackJob.sweep_of_settled hjob' hsub hended
      rw [PackJob.sweep_deferring] at hswept
      exact .inl ⟨.ok pack, hswept, hstep⟩
    | .unresolved ⟨specifier, none, candidates⟩ =>
      obtain ⟨-, hswept⟩ := PackJob.sweep_of_missing hjob' hpack rfl
      rw [PackJob.sweep_deferring] at hswept
      exact .inl ⟨_, hswept, hstep⟩
    | .unresolved ⟨specifier, some referrer, candidates⟩ =>
      have htally : t.tally.deferred = (job.deferring t.deferred).deferred := rfl
      obtain ⟨hfresh, hswept⟩ := PackJob.sweep_of_stop hjob' htally hpack rfl
      rw [PackJob.sweep_deferring, PackJob.sweep_deferring] at hswept
      refine .inr ⟨specifier, referrer, candidates, ?_, hswept⟩
      have hnew : specifier ∉ t.deferred := hfresh
      rw [hstep, handle, if_neg hnew]

/-- A task of an honest job is settled as by one sweep. -/
theorem settle_eq_sweep {job : PackJob} (hjob : job.Honest) (t : Task) :
    (t.settle job.packer).task.tally = (job.sweep t.entrypoint t.tally).tally ∧
      (t.settle job.packer).outcome = (job.sweep t.entrypoint t.tally).result t.entrypoint := by
  fun_induction settle job.packer t with
  | case1 t attempt cause hattempt =>
    rcases step_cases hjob t with ⟨outcome, hswept, hstep⟩ | ⟨_, _, _, hstep, -⟩
    · rw [hswept]
      have h := hattempt.symm.trans hstep
      cases outcome <;> cases h
      exact ⟨rfl, rfl⟩
    · cases hattempt.symm.trans hstep
  | case2 t attempt result hattempt =>
    rcases step_cases hjob t with ⟨outcome, hswept, hstep⟩ | ⟨_, _, _, hstep, -⟩
    · rw [hswept]
      have h := hattempt.symm.trans hstep
      cases outcome <;> cases h
      exact ⟨rfl, rfl⟩
    · cases hattempt.symm.trans hstep
  | case3 t attempt t' hattempt settled ih =>
    -- The task goes on with one more specifier put aside, which does not change the sweep.
    rcases step_cases hjob t with ⟨outcome, -, hstep⟩ | ⟨specifier, referrer, candidates, hstep, hswept⟩
    · have h := hattempt.symm.trans hstep
      cases outcome <;> cases h
    · cases hattempt.symm.trans hstep
      rw [hswept]
      exact ih

/-- Of the attempts of a task, each but the last one adds one skipped specifier. -/
theorem length_earlier_settle (packer : Packer) (t : Task) :
    (t.settle packer).task.earlier.length + t.skips.length =
      t.earlier.length + (t.settle packer).task.skips.length := by
  fun_induction settle packer t with
  | case1 t attempt cause hattempt => rfl
  | case2 t attempt result hattempt => rfl
  | case3 t attempt t' hattempt settled ih =>
    obtain ⟨specifier, referrer, candidates, -, -, rfl⟩ := eq_putAside_of_step hattempt
    have hskips : (t.putAside specifier referrer candidates).skips.length = t.skips.length + 1 := by
      simp [putAside]
    have hearlier : (t.putAside specifier referrer candidates).earlier.length =
        t.earlier.length + 1 := by
      simp [putAside]
    rw [hskips, hearlier] at ih
    change (settle packer (t.putAside specifier referrer candidates)).task.earlier.length + _ =
      _ + (settle packer (t.putAside specifier referrer candidates)).task.skips.length
    omega

end Task

/-- A sweep through a closed store ends in no fault but that the file to start from is missing, or that of a
source that is no text. -/
theorem PackJob.fault_of_sweep {job : PackJob} (hjob : job.Honest) (hs : job.store.Closed)
    (hanswers : ∀ path entry cause, job.verdict path entry ≠ .fault cause) {entrypoint : String}
    {tally : Tally} {cause : Fault} (h : (job.sweep entrypoint tally).outcome = .error cause) :
    cause = .unresolved entrypoint none [(job.store.url entrypoint).href] ∨
      ∃ path reason, cause = .source path reason := by
  rcases sweep_eq_error hjob hanswers hs h with ⟨-, hmissing⟩ | ⟨-, path, reason, -, -, hsource⟩
  · exact .inl hmissing
  · exact .inr ⟨path, reason, hsource⟩

/-! ### Tasks in a store in memory -/

/-- **Starting over is as good as going on.**  For a store in memory and the standard resolver, a task ends
as the one sweep does that starts with the same specifiers put aside: with the same files, resolutions and
skips in the same order, or in the same fault.  It makes one pack more than it skips specifiers, and the
only faults are a missing file to start from and a source that is no text. -/
theorem Task.settle_standard (m : MemoryStore) (config : Config) (seed : List String)
    (entrypoint : String) :
    let job := PackJob.standard m.toStore Source.entries config.builtins config.targets []
    let swept := job.sweep entrypoint ⟨seed, []⟩
    let settled := (Task.start entrypoint seed).settle (Packer.standard m.toStore config)
    settled.outcome = swept.result entrypoint ∧
      settled.task.skips = swept.tally.skips ∧
      settled.calls.length = swept.tally.skips.length + 1 ∧
      ∀ cause, settled.outcome = .error cause →
        cause = .unresolved entrypoint none [(m.toStore.url entrypoint).href] ∨
          ∃ path reason, cause = .source path reason := by
  intro job swept settled
  have hs : job.store.Closed := m.closed_toStore
  have hjob : job.Honest := PackJob.honest_standard hs
  obtain ⟨htally, houtcome⟩ := settle_eq_sweep hjob (Task.start entrypoint seed)
  have hskips : settled.task.skips = swept.tally.skips := congrArg Tally.skips htally
  refine ⟨houtcome, hskips, ?_, ?_⟩
  · -- The calls are the attempts before the last one and the last one.
    have hlength := length_earlier_settle job.packer (Task.start entrypoint seed)
    have hstart : (Task.start entrypoint seed).skips.length = 0 := rfl
    have hstart' : (Task.start entrypoint seed).earlier.length = 0 := rfl
    have hcalls : settled.calls.length = settled.task.earlier.length + 1 := by
      simp [Settled.calls]
    rw [hcalls, ← hskips]
    change (settle job.packer (Task.start entrypoint seed)).task.earlier.length + 1 =
      (settle job.packer (Task.start entrypoint seed)).task.skips.length + 1
    omega
  · intro cause hcause
    have hanswers : ∀ path entry cause, job.verdict path entry ≠ .fault cause :=
      PackJob.verdict_ne_fault hs config.targets_valid
    have hresult : swept.result entrypoint = .error cause := houtcome.symm.trans hcause
    have hswept : swept.outcome = .error cause := by
      rw [Swept.result] at hresult
      cases houtcome : swept.outcome with
      | error cause' =>
        rw [houtcome] at hresult
        cases hresult
        rfl
      | ok pack =>
        rw [houtcome] at hresult
        cases hresult
    exact PackJob.fault_of_sweep hjob hs hanswers hswept

end ModuleReach
