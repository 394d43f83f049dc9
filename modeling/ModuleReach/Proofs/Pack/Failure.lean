import ModuleReach.Proofs.Pack.Misses

/-!
# Programs that cannot be loaded

Manifests and specifiers can be anything: an entry that leads nowhere is skipped by a sweep.  Only two things keep it
from its end: the file to start from is missing, or a source that the program loads is no text.

## Main definitions

* `PackJob.Unreadable` — a source that is no text.
* `PackJob.Loadable` — the programs with neither of the two defects.

## Main results

* `PackJob.unreadable_of_source?` — reading a source is a fault only if it is unreadable.
* `PackJob.exists_loads_of_sweepWalk`, `PackJob.sweep_eq_error` — the faults in which a sweep through a closed store
  can end.
-/

namespace ModuleReach

namespace PackJob

variable {job : PackJob}

/-! ### Programs that can be loaded -/

/-- Whether the file at a path has the extension of a source and is no text, for a reason. -/
def Unreadable (job : PackJob) (path reason : String) : Prop :=
  Path.extension path ∈ Source.extensions ∧ ∃ content, job.store.content? path = some content ∧
    Source.decode path content = .error (.source path reason)

/-- Whether the program that starts with a file can be loaded: the file is there, and every source that the program
loads is a text. -/
def Loadable (job : PackJob) (root : String) : Prop :=
  job.store.has root = true ∧ ∀ path reason, job.Loads root path → ¬ job.Unreadable path reason

/-- Reading a source is a fault only if the source is unreadable, and the fault says so. -/
theorem unreadable_of_source? (hs : job.store.Closed) {path : String} {cause : Fault}
    (h : job.source? path = .error cause) : ∃ reason, cause = .source path reason ∧ job.Unreadable path reason := by
  rw [source?, Store.read_eq hs] at h
  cases hcontent : job.store.content? path with
  | none =>
    rw [hcontent] at h
    cases h
  | some content =>
    rw [hcontent] at h
    obtain ⟨reason, rfl⟩ := Source.eq_source_of_text? h
    obtain ⟨hextension, hdecode⟩ := Source.outcome_text?_eq_error_iff.1 h
    exact ⟨reason, rfl, hextension, content, hcontent, hdecode⟩

/-- What may fail does not matter for what a program loads. -/
theorem Loads.deferring {root path : String} (h : job.Loads root path) (deferred : List String) :
    (job.deferring deferred).Loads root path := by
  induction h with
  | root => exact .root
  | step _ hentry hbuiltin hanswer hleaf ih => exact .step ih hentry hbuiltin hanswer hleaf

/-! ### Sweeps that fail -/

section Sweep

variable (hjob : job.Honest) (hanswers : ∀ path entry cause, job.verdict path entry ≠ .fault cause)

include hjob hanswers

/-- A sweep over sources that the program loads ends in no fault but that of one which it loads. -/
theorem exists_loads_of_sweepWalk {root : String} {visited : List String} {tally : Tally} {pack : Packed}
    {queue : List String} {hqueue : ∀ path ∈ queue, path ∈ root :: job.reachable} {cause : Fault}
    (hloads : ∀ path ∈ queue, job.Loads root path)
    (h : (job.sweepWalk root visited tally pack queue hqueue).outcome = .error cause) :
    ∃ path, job.Loads root path ∧ job.source? path = .error cause := by
  fun_induction sweepWalk job root visited tally pack queue hqueue with
  | case1 visited tally pack => cases h
  | case2 visited tally pack path rest hqueue hvisited _ ih =>
    exact ih (fun p hp => hloads p (List.mem_cons_of_mem _ hp)) h
  | case3 visited tally pack path rest hqueue hnew visit cause' hcause =>
    cases h
    -- No entry leads to a fault, so the fault comes from reading the source.
    cases hsource : job.source? path with
    | error cause' =>
      have hvisit := sweepVisit_error hsource (path :: visited) tally pack
      cases hcause.symm.trans (congrArg Swept.outcome hvisit)
      exact ⟨path, hloads path List.mem_cons_self, hsource⟩
    | ok text? =>
      have hvisit := sweepVisit_eq hjob hanswers (path :: visited) hsource tally pack
      cases hcause.symm.trans (congrArg Swept.outcome hvisit)
  | case4 visited tally pack path rest hqueue hnew visit pack' queued hok _ ih =>
    refine ih ?_ h
    intro p hp
    rcases List.mem_append.1 hp with hp | hp
    · exact hloads p (List.mem_cons_of_mem _ hp)
    · cases hsource : job.source? path with
      | error cause' =>
        have hvisit := sweepVisit_error hsource (path :: visited) tally pack
        cases hok.symm.trans (congrArg Swept.outcome hvisit)
      | ok text? =>
        -- What is queued is what the links of a loaded source lead to.
        have hvisit := sweepVisit_eq hjob hanswers (path :: visited) hsource tally pack
        cases hok.symm.trans (congrArg Swept.outcome hvisit)
        obtain ⟨-, link, hlink, hleaf, rfl⟩ := mem_nextOf.1 hp
        exact (hloads path List.mem_cons_self).of_link hlink hleaf

/-- A sweep through a closed store ends in a fault only if the file to start from is missing or an unreadable
source is loaded. -/
theorem sweep_eq_error (hs : job.store.Closed) {entrypoint : String} {tally : Tally} {cause : Fault}
    (h : (job.sweep entrypoint tally).outcome = .error cause) :
    (job.store.has entrypoint = false ∧
        cause = .unresolved entrypoint none [(job.store.url entrypoint).href]) ∨
      (job.store.has entrypoint = true ∧ ∃ path reason, job.Loads (Path.normalize entrypoint) path ∧
        job.Unreadable path reason ∧ cause = .source path reason) := by
  rw [sweep, Store.read_eq hs, Store.content?_normalize] at h
  rw [Store.has]
  cases hcontent : job.store.content? entrypoint with
  | none =>
    rw [hcontent] at h
    cases h
    rw [Store.url_normalize]
    exact .inl ⟨rfl, rfl⟩
  | some content =>
    rw [hcontent] at h
    have hloads : ∀ path ∈ [Path.normalize entrypoint], job.Loads (Path.normalize entrypoint) path := by
      intro path hpath
      rw [List.mem_singleton.1 hpath]
      exact .root
    obtain ⟨path, hload, hsource⟩ := exists_loads_of_sweepWalk hjob hanswers hloads h
    obtain ⟨reason, hcause, hunreadable⟩ := unreadable_of_source? hs hsource
    exact .inr ⟨rfl, path, reason, hload, hunreadable, hcause⟩

end Sweep

end PackJob

end ModuleReach
