import ModuleReach.Proofs.Pack.Misses
import ModuleReach.Proofs.Traversal.Outcome

/-!
# What is put aside from the start

What a traversal finds does not depend on the specifiers that are put aside from the start.  They are only
left out of the report: a traversal that puts some aside reports the files and the resolutions of one that
puts none aside, in the same order, and of its skips those of other specifiers, in the same order; and
where the one ends in a fault, so does the other.

The empty specifier has to be excepted.  It is that of an addon which asks for the package of its own
file; if it is put aside, the addon is passed over, although its skip would be reported under the
specifier `.`.

## Main definitions

* `Report.without` — a report without the skips of some specifiers.

## Main results

* `Traversal.exists_outcomeAt_eq` — how the task for an entrypoint ends, whatever is put aside from the
  start.
* `Traversal.run_deferring` — what comes of putting specifiers aside.
-/

namespace ModuleReach

/-- Skips without those of some specifiers. -/
def Skip.others (deferred : List String) (skips : List Skip) : List Skip :=
  skips.filter fun s => s.specifier ∉ deferred

/-- A result without the skips of some specifiers. -/
def EntrypointResult.without (deferred : List String) (result : EntrypointResult) : EntrypointResult :=
  { result with skips := Skip.others deferred result.skips }

/-- A report without the skips of some specifiers. -/
def Report.without (deferred : List String) (report : Report) : Report :=
  { report with skips := Skip.others deferred report.skips }

/-- It is the same to leave skips out of the results and to leave them out of the report. -/
theorem Report.merge_map_without (deferred : List String) (results : List EntrypointResult) :
    merge (results.map (·.without deferred)) = (merge results).without deferred := by
  have hskips : mergeSkips (results.map (·.without deferred)) = Skip.others deferred (mergeSkips results) := by
    have hkey : ∀ s t : Skip, s.key = t.key →
        decide (s.specifier ∉ deferred) = decide (t.specifier ∉ deferred) := by
      intro s t h
      have hspecifier : s.specifier = t.specifier := congrArg Prod.fst h
      rw [hspecifier]
    rw [mergeSkips, mergeSkips, Skip.others, filter_eraseDupsBy hkey, List.filter_flatMap, List.flatMap_map]
    rfl
  have hfiles : mergeFiles (results.map (·.without deferred)) = mergeFiles results := by
    rw [mergeFiles, mergeFiles, List.flatMap_map]
    rfl
  have hresolutions : mergeResolutions (results.map (·.without deferred)) = mergeResolutions results := by
    rw [mergeResolutions, mergeResolutions, List.foldl_map]
    rfl
  rw [merge, hskips, hfiles, hresolutions]
  rfl

/-- Where the empty specifier is not put aside, misses are forgiven by the specifier under which they are
reported. -/
theorem Miss.Named.forgiven_iff {miss : Miss} (h : miss.Named) {deferred : List String} (hempty : "" ∉ deferred) :
    miss.Forgiven deferred ↔ miss.skip.specifier ∈ deferred := by
  constructor
  · rintro (hmem | hmem)
    · exact hmem
    · rcases h.own with hown | hown
      · rw [hown] at hmem
        exact hmem
      · rw [hown] at hmem
        exact absurd hmem hempty
  · exact .inl

/-- What is put aside at first is left out of the first misses. -/
theorem Tally.firstMisses_eq {deferred : List String} (hempty : "" ∉ deferred) {misses : List Miss}
    (h : ∀ miss ∈ misses, miss.Named) :
    firstMisses deferred misses = Skip.others deferred (firstMisses [] misses) := by
  have hall : misses.filter (fun miss => ¬ miss.Forgiven []) = misses := by
    refine List.filter_eq_self.2 fun miss _ => ?_
    simp [Miss.Forgiven, PackJob.Forgives]
  have hothers : misses.filter (fun miss => ¬ miss.Forgiven deferred) =
      misses.filter ((fun s : Skip => decide (s.specifier ∉ deferred)) ∘ Miss.skip) := by
    refine List.filter_congr fun miss hmiss => ?_
    simp only [(h miss hmiss).forgiven_iff hempty, Function.comp_apply]
  have hkey : ∀ s t : Skip, s.specifier = t.specifier →
      decide (s.specifier ∉ deferred) = decide (t.specifier ∉ deferred) := by
    intro s t hspecifier
    rw [hspecifier]
  rw [firstMisses, firstMisses, Skip.others, filter_eraseDupsBy hkey, List.filter_map, hall, hothers]

namespace Traversal

/-- The task for an entrypoint visits the same sources and finds the same pack, whatever is put aside from
the start, and skips the first of the misses for each specifier that this does not forgive.  The sources are
loaded by the program, and if the task ends well, they are all that it loads. -/
theorem exists_outcomeAt_eq (m : MemoryStore) (config : Config) (entrypoint : String) :
    let job := PackJob.standard m.toStore Source.entries config.builtins config.targets []
    ∃ (paths : List String) (outcome : Except Fault Packed),
      (∀ path ∈ paths, job.Loads (Path.normalize entrypoint) path) ∧
      (∀ pack, outcome = .ok pack → ∀ path, job.Loads (Path.normalize entrypoint) path → path ∈ paths) ∧
      (∀ miss ∈ paths.flatMap job.sourceMisses, miss.Named) ∧
      ∀ seed, outcomeAt (Packer.standard m.toStore config) seed entrypoint =
        outcome.map fun pack => ⟨entrypoint, pack.files.keys,
          Tally.firstMisses seed (paths.flatMap job.sourceMisses), pack.resolutions⟩ := by
  intro job
  have hs : job.store.Closed := m.closed_toStore
  have hjob : job.Honest := PackJob.honest_standard hs
  have hanswers : ∀ path entry cause, job.verdict path entry ≠ .fault cause :=
    PackJob.verdict_ne_fault hs config.targets_valid
  obtain ⟨paths, outcome, hpaths, hall, hsweep⟩ := PackJob.exists_sweep_eq hjob hanswers entrypoint
  have hnamed : ∀ miss ∈ paths.flatMap job.sourceMisses, miss.Named := by
    intro miss hmiss
    obtain ⟨path, -, hmem⟩ := List.mem_flatMap.1 hmiss
    exact PackJob.named_sourceMisses hs config.targets_valid hmem
  refine ⟨paths, outcome, hpaths, hall, hnamed, fun seed => ?_⟩
  -- All attempts of the task together do what one sweep does.
  have hsettle := (Task.settle_eq_sweep hjob (Task.start entrypoint seed)).2
  have hskips := Tally.skips_meetAll hnamed (Task.start entrypoint seed).tally
  rw [Task.start, Task.tally, hsweep, Swept.result] at hsettle
  rw [Task.start, Task.tally, List.nil_append] at hskips
  dsimp only at hsettle hskips
  rw [hskips] at hsettle
  exact hsettle

/-- **What is put aside is only left out of the report.**  For a store in memory and the standard
resolver, a traversal that puts aside some specifiers from the start, the empty one not among them, ends
in the same fault as one that puts none aside, or reports the same files and resolutions in the same
order, and of the skips those of other specifiers, in the same order. -/
theorem run_deferring (m : MemoryStore) (config : Config) (texts : List String) {deferred : List String}
    (hempty : "" ∉ deferred) :
    (run (Packer.standard m.toStore config) texts deferred).outcome =
      (run (Packer.standard m.toStore config) texts []).outcome.map (·.without deferred) := by
  have hresult : ∀ entrypoint, outcomeAt (Packer.standard m.toStore config) deferred entrypoint =
      (outcomeAt (Packer.standard m.toStore config) [] entrypoint).map (·.without deferred) := by
    intro entrypoint
    obtain ⟨paths, outcome, -, -, hnamed, houtcome⟩ := exists_outcomeAt_eq m config entrypoint
    rw [houtcome, houtcome, Tally.firstMisses_eq hempty hnamed]
    cases outcome <;> rfl
  rw [outcome_run, outcome_run, funext hresult, mapM_except_map]
  cases (entrypoints texts).mapM (outcomeAt (Packer.standard m.toStore config) []) with
  | error cause => rfl
  | ok results => exact congrArg Except.ok (Report.merge_map_without deferred results)

/-- For instance, a program that asks for a package which is not there. -/
theorem run_deferring_missing :
    let m := (MemoryStore.empty "drive").put "/index.js" (Utf8.encode "require(\"x\")".toList)
    "" ∉ ["x"] ∧ (run (Packer.standard m.toStore .standard) ["/index.js"] ["x"]).outcome =
      (run (Packer.standard m.toStore .standard) ["/index.js"] []).outcome.map (·.without ["x"]) :=
  ⟨by decide, run_deferring _ .standard ["/index.js"] (by decide)⟩

end Traversal

end ModuleReach
