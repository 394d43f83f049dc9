import ModuleReach.Proofs.Traversal.Outcome

/-!
# What a traversal cannot get over

The task for an entrypoint ends well exactly if the program that starts with it can be loaded.  A traversal fails if one of
them cannot, and then it reports the first of its entrypoints for which this is so.  This holds in closed stores, and so in a
store in memory whose manifests nest no deeper than their reader can follow.

## Main results

* `Traversal.outcomeAt_cases`, `Traversal.loadable_iff` — how the task for an entrypoint ends.
* `Traversal.run_loadable` — which traversals fail, and in which fault.
-/

namespace ModuleReach

namespace Traversal

section Standard

variable {store : Store} (hs : store.Closed) (config : Config) (seed : List String)

include hs

/-- The task for an entrypoint ends well if the program can be loaded.  Otherwise it ends in the fault that the
entrypoint is missing or, if it is there, in that of an unreadable source which the program loads. -/
theorem outcomeAt_cases {entrypoint : String} (hcanonical : Path.normalize entrypoint = entrypoint) :
    let job := PackJob.standard store Source.entries config.builtins config.targets []
    let outcome := outcomeAt (Packer.standard store config) seed entrypoint
    (job.Loadable entrypoint ∧ ∃ result, outcome = .ok result) ∨
    (job.store.has entrypoint = false ∧
      outcome = .error (.unresolved entrypoint none [(job.store.url entrypoint).href])) ∨
    (job.store.has entrypoint = true ∧ ∃ path reason, job.Loads entrypoint path ∧
      job.Unreadable path reason ∧ outcome = .error (.source path reason)) := by
  intro job outcome
  have hjob : job.Honest := PackJob.honest_standard hs
  have hanswers : ∀ path entry cause, job.verdict path entry ≠ .fault cause :=
    PackJob.verdict_ne_fault hs config.targets_valid
  cases houtcome : outcome with
  | ok result =>
    -- The last attempt has made a pack, so all that is loaded is sound, and a sound source is a text.
    obtain ⟨deferred, pack, hpack, -⟩ := exists_pack_of_outcomeAt job houtcome
    obtain ⟨hhas, hsound⟩ :=
      (PackJob.exists_packed_iff (hjob.deferring deferred) hs entrypoint).1 ⟨pack, hpack⟩
    refine .inl ⟨⟨hhas, ?_⟩, result, rfl⟩
    rintro path reason hload ⟨hextension, content, hcontent, hdecode⟩
    rw [hcanonical] at hsound
    have hdecodes := (hsound path (hload.deferring deferred)).decodes
    obtain ⟨text, htext⟩ := hdecodes content hcontent hextension
    cases hdecode.symm.trans htext
  | error cause =>
    have hsettle : outcome = (job.sweep entrypoint ⟨seed, []⟩).result entrypoint :=
      (Task.settle_eq_sweep hjob (Task.start entrypoint seed)).2
    have hswept : (job.sweep entrypoint ⟨seed, []⟩).outcome = .error cause :=
      Swept.outcome_of_result (hsettle.symm.trans houtcome)
    rcases PackJob.sweep_eq_error hjob hanswers hs hswept with ⟨hmissing, rfl⟩ | ⟨hhas, path, reason, hload, h, rfl⟩
    · exact .inr (.inl ⟨hmissing, rfl⟩)
    · rw [hcanonical] at hload
      exact .inr (.inr ⟨hhas, path, reason, hload, h, rfl⟩)

/-- The programs that can be loaded are those for which the task ends well. -/
theorem loadable_iff {entrypoint : String} (hcanonical : Path.normalize entrypoint = entrypoint) :
    (PackJob.standard store Source.entries config.builtins config.targets []).Loadable entrypoint ↔
      ∃ result, outcomeAt (Packer.standard store config) seed entrypoint = .ok result := by
  rcases outcomeAt_cases hs config seed hcanonical with
    ⟨hloadable, hok⟩ | ⟨hmissing, herror⟩ | ⟨-, path, reason, hload, hunreadable, herror⟩
  · exact iff_of_true hloadable hok
  · refine iff_of_false ?_ (by simp [herror])
    rintro ⟨hhas, -⟩
    cases hhas.symm.trans hmissing
  · refine iff_of_false ?_ (by simp [herror])
    rintro ⟨-, hreadable⟩
    exact hreadable path reason hload hunreadable

end Standard

/-- **What keeps a traversal from its end.**  Take a store in memory and the standard resolver, and let no manifest nest
deeper than its reader can follow.  Whatever is put aside from the start, a traversal ends well exactly if the programs
that start with its entrypoints can be loaded.  Otherwise the first one that cannot decides.  If its entrypoint is
missing, the fault says so and names the entrypoint and its URL; else the fault names an unreadable source that the
program loads.  There are no other faults, however ill-formed the manifests and the sources are. -/
theorem run_loadable (m : MemoryStore) {limit : Nat} (hlimit : m.toStore.NestsWithin limit) (config : Config)
    (seed texts : List String) :
    let job := PackJob.standard (m.toStore.within limit) Source.entries config.builtins config.targets []
    let outcome := (run (Packer.standard (m.toStore.within limit) config) texts seed).outcome
    ((∃ report, outcome = .ok report) ↔ ∀ entrypoint ∈ entrypoints texts, job.Loadable entrypoint) ∧
    (∀ before entrypoint after, entrypoints texts = before ++ entrypoint :: after →
      (∀ earlier ∈ before, job.Loadable earlier) → ¬ job.Loadable entrypoint →
        (job.store.has entrypoint = false ∧
          outcome = .error (.unresolved entrypoint none [(job.store.url entrypoint).href])) ∨
        (job.store.has entrypoint = true ∧ ∃ path reason, job.Loads entrypoint path ∧
          job.Unreadable path reason ∧ outcome = .error (.source path reason))) ∧
    ∀ cause, outcome = .error cause → cause.kind = .unresolved ∨ cause.kind = .source := by
  intro job outcome
  have hs : (m.toStore.within limit).Closed := m.closed_toStore.within hlimit
  have hcanonical : ∀ entrypoint ∈ entrypoints texts, Path.normalize entrypoint = entrypoint := by
    intro entrypoint hentrypoint
    obtain ⟨text, -, rfl⟩ := mem_entrypoints.1 hentrypoint
    exact Path.normalize_normalize text
  refine ⟨?_, ?_, ?_⟩
  · rw [exists_run_iff]
    exact forall₂_congr fun entrypoint hentrypoint =>
      (loadable_iff hs config seed (hcanonical entrypoint hentrypoint)).symm
  · intro before entrypoint after htexts hbefore hfails
    have hentrypoint : entrypoint ∈ entrypoints texts := by
      rw [htexts]
      exact List.mem_append_right _ List.mem_cons_self
    have hearlier : ∀ earlier ∈ before,
        ∃ result, outcomeAt (Packer.standard (m.toStore.within limit) config) seed earlier = .ok result := by
      intro earlier hmem
      have hcanonical' : Path.normalize earlier = earlier := by
        refine hcanonical earlier ?_
        rw [htexts]
        exact List.mem_append_left _ hmem
      exact (loadable_iff hs config seed hcanonical').1 (hbefore earlier hmem)
    rcases outcomeAt_cases hs config seed (hcanonical entrypoint hentrypoint) with
      ⟨hgood, -⟩ | ⟨hmissing, herror⟩ | ⟨hhas, path, reason, hload, hunreadable, herror⟩
    · exact absurd hgood hfails
    · exact .inl ⟨hmissing, outcome_run_of_first htexts hearlier herror⟩
    · exact .inr ⟨hhas, path, reason, hload, hunreadable, outcome_run_of_first htexts hearlier herror⟩
  · intro cause hcause
    obtain ⟨entrypoint, hentrypoint, herror⟩ := exists_of_run_eq_error hcause
    rcases outcomeAt_cases hs config seed (hcanonical entrypoint hentrypoint) with
      ⟨-, result, hok⟩ | ⟨-, hmissing⟩ | ⟨-, path, reason, -, -, hsource⟩
    · cases herror.symm.trans hok
    · cases herror.symm.trans hmissing
      exact .inl rfl
    · cases herror.symm.trans hsource
      exact .inr rfl

/-- A manifest that is cut off, and a source that is no text. -/
def mangled : MemoryStore :=
  .ofFiles "drive" [("/package.json", Utf8.encode "\x7b\"imports\":[".toList), ("/index.js", [0xFF])]

/-- Of the two only the source keeps a traversal from its end. -/
theorem run_loadable_mangled :
    mangled.toStore.NestsWithin 2 ∧ ∃ path reason,
      (run (Packer.standard (mangled.toStore.within 2) Config.standard) ["index.js"] []).outcome =
        .error (.source path reason) := by
  have hlimit : mangled.toStore.NestsWithin 2 := MemoryStore.nestsWithin_of_keys (by decide +kernel)
  let job := PackJob.standard (mangled.toStore.within 2) Source.entries Config.standard.builtins Config.standard.targets []
  have hentrypoints : entrypoints ["index.js"] = [] ++ "/index.js" :: [] := by decide +kernel
  have hhas : job.store.has "/index.js" = true := by decide +kernel
  have hunreadable : ∃ reason, job.Unreadable "/index.js" reason := by
    obtain ⟨reason, hreason⟩ : ∃ reason, Source.decode "/index.js" [0xFF] = .error (.source "/index.js" reason) :=
      ⟨_, rfl⟩
    exact ⟨reason, by decide, [0xFF], by decide +kernel, hreason⟩
  have hnot : ¬ job.Loadable "/index.js" := by
    rintro ⟨-, hreadable⟩
    obtain ⟨reason, hreason⟩ := hunreadable
    exact hreadable "/index.js" reason .root hreason
  obtain ⟨-, hfirst, -⟩ := run_loadable mangled hlimit Config.standard [] ["index.js"]
  refine ⟨hlimit, ?_⟩
  rcases hfirst [] "/index.js" [] hentrypoints (List.forall_mem_nil _) hnot with
    ⟨hmissing, -⟩ | ⟨-, path, reason, -, -, houtcome⟩
  · cases hhas.symm.trans hmissing
  · exact ⟨path, reason, houtcome⟩

end Traversal

end ModuleReach
