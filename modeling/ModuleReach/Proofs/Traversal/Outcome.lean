import Mathlib.Data.List.Basic
import ModuleReach.Traversal.Basic
import ModuleReach.Proofs.Path.Canonical
import ModuleReach.Proofs.Traversal.Attempts

/-!
# How traversals end

A traversal ends well exactly if all its tasks do, and then it reports on their results in the order of
the entrypoints; otherwise it ends in the fault of the first task that fails.  A task ends as its last
attempt does.

## Main definitions

* `Traversal.outcomeAt` — how the task for an entrypoint ends.

## Main results

* `Traversal.outcome_run` — how a traversal ends, from how its tasks end.
* `Task.exists_step_of_settle` — the last attempt of a task.
* `Traversal.exists_pack_of_outcomeAt` — the pack that a task ends with.
-/

namespace ModuleReach

/-! ### One outcome after the other -/

section MapM

variable {ε α β γ : Type} {f : α → Except ε β} {l : List α}

/-- Computations for the elements of a list end well exactly if each of them does. -/
theorem mapM_eq_ok_iff {values : List β} : l.mapM f = .ok values ↔ l.map f = values.map .ok := by
  induction l generalizing values with
  | nil => cases values <;> simp [List.mapM_nil, pure, Except.pure]
  | cons a rest ih =>
    rw [List.mapM_cons, List.map_cons]
    cases hvalue : f a with
    | error cause => cases values <;> simp [bind, Except.bind]
    | ok value =>
      cases hrest : rest.mapM f with
      | error cause =>
        have hfails : ∀ others : List β, rest.map f ≠ others.map .ok := by
          intro others hothers
          cases hrest.symm.trans (ih.2 hothers)
        cases values <;> simp [bind, Except.bind, hfails]
      | ok others =>
        have hothers : rest.map f = others.map .ok := ih.1 hrest
        cases values with
        | nil => simp [bind, Except.bind, pure, Except.pure]
        | cons first values =>
          have hvalues : others.map (@Except.ok ε β) = values.map .ok ↔ others = values :=
            List.map_inj_right fun _ _ h => Except.ok.inj h
          simp [bind, Except.bind, pure, Except.pure, hothers, hvalues]

/-- If one of the computations fails, so do they all together, in the way in which one of them does. -/
theorem exists_of_mapM_eq_error {cause : ε} (h : l.mapM f = .error cause) :
    ∃ a ∈ l, f a = .error cause := by
  induction l with
  | nil => cases h
  | cons a rest ih =>
    rw [List.mapM_cons] at h
    cases hvalue : f a with
    | error cause' =>
      rw [hvalue] at h
      cases h
      exact ⟨a, List.mem_cons_self, hvalue⟩
    | ok value =>
      rw [hvalue] at h
      cases hrest : rest.mapM f with
      | error cause' =>
        rw [hrest] at h
        cases h
        obtain ⟨b, hb, hcause⟩ := ih hrest
        exact ⟨b, List.mem_cons_of_mem _ hb, hcause⟩
      | ok values =>
        rw [hrest] at h
        cases h

/-- Computations for the elements of a list fail together as the first of them does that fails. -/
theorem mapM_eq_error_of_first {before after : List α} {a : α} {cause : ε}
    (hbefore : ∀ b ∈ before, ∃ value, f b = .ok value) (h : f a = .error cause) :
    (before ++ a :: after).mapM f = .error cause := by
  induction before with
  | nil =>
    rw [List.nil_append, List.mapM_cons, h]
    rfl
  | cons first rest ih =>
    obtain ⟨value, hvalue⟩ := hbefore first List.mem_cons_self
    rw [List.cons_append, List.mapM_cons, hvalue, ih fun b hb => hbefore b (List.mem_cons_of_mem _ hb)]
    rfl

/-- The values of computations that end well. -/
theorem mem_iff_of_map_eq {values : List β} (h : l.map f = values.map .ok) {value : β} :
    value ∈ values ↔ ∃ a ∈ l, f a = .ok value := by
  rw [← List.mem_map, h, List.mem_map_of_injective fun _ _ h => Except.ok.inj h]

/-- Computations for the elements of a list end well together if each of them does. -/
theorem exists_mapM_iff : (∃ values, l.mapM f = .ok values) ↔ ∀ a ∈ l, ∃ value, f a = .ok value := by
  constructor
  · rintro ⟨values, hvalues⟩ a ha
    have hmem : f a ∈ values.map Except.ok := mapM_eq_ok_iff.1 hvalues ▸ List.mem_map_of_mem ha
    obtain ⟨value, -, hvalue⟩ := List.mem_map.1 hmem
    exact ⟨value, hvalue.symm⟩
  · intro h
    cases hvalues : l.mapM f with
    | ok values => exact ⟨values, rfl⟩
    | error cause =>
      obtain ⟨a, ha, hcause⟩ := exists_of_mapM_eq_error hvalues
      obtain ⟨value, hvalue⟩ := h a ha
      cases hcause.symm.trans hvalue

/-- Computations whose values are changed end as before, with the values changed. -/
theorem mapM_except_map (change : β → γ) :
    l.mapM (fun a => (f a).map change) = (l.mapM f).map (List.map change) := by
  induction l with
  | nil => rfl
  | cons a rest ih =>
    rw [List.mapM_cons, List.mapM_cons, ih]
    cases f a with
    | error cause => rfl
    | ok value => cases rest.mapM f <;> rfl

end MapM

/-! ### Tasks -/

namespace Task

variable {packer : Packer}

/-- A task ends as its last attempt does. -/
theorem exists_step_of_settle (packer : Packer) (t : Task) :
    ∃ last : Task, last.entrypoint = t.entrypoint ∧
      (last.step packer).outcome = (t.settle packer).outcome.map .done := by
  fun_induction settle packer t with
  | case1 t attempt cause hattempt => exact ⟨t, rfl, hattempt⟩
  | case2 t attempt result hattempt => exact ⟨t, rfl, hattempt⟩
  | case3 t attempt t' hattempt settled ih =>
    obtain ⟨specifier, referrer, candidates, -, -, rfl⟩ := eq_putAside_of_step hattempt
    exact ih

/-- An attempt that ends a task well has made a pack. -/
theorem exists_pack_of_step {t : Task} {result : EntrypointResult}
    (h : (t.step packer).outcome = .ok (.done result)) :
    ∃ pack, (packer.pack t.entrypoint t.earlier t.deferred).outcome = .ok (.packed pack) ∧
      result = ⟨t.entrypoint, pack.files.keys, t.skips, pack.resolutions⟩ := by
  have hends : Ends t (t.reply packer.pack) (.ok result) := outcome_attempt_eq_done_iff.1 h
  rw [reply] at hends
  generalize (packer.pack t.entrypoint t.earlier t.deferred).outcome = answer at hends
  cases hends with
  | packed pack => exact ⟨pack, rfl, rfl⟩

/-- An attempt that fails was given a fault, or the first file is missing, or making the pack stopped at
what was put aside. -/
theorem cause_of_step {t : Task} {cause : Fault} (h : (t.step packer).outcome = .error cause) :
    (packer.pack t.entrypoint t.earlier t.deferred).outcome = .error cause ∨
      (∃ specifier candidates,
        (packer.pack t.entrypoint t.earlier t.deferred).outcome =
          .ok (.unresolved ⟨specifier, none, candidates⟩) ∧
        cause = .unresolved specifier none candidates) ∨
      ∃ specifier referrer candidates,
        (packer.pack t.entrypoint t.earlier t.deferred).outcome =
          .ok (.unresolved ⟨specifier, some referrer, candidates⟩) ∧
        specifier ∈ t.deferred ∧ cause = .repeatedStop specifier referrer.href := by
  have hends : Ends t (t.reply packer.pack) (.error cause) := outcome_attempt_eq_done_iff.1 h
  rw [reply] at hends
  generalize (packer.pack t.entrypoint t.earlier t.deferred).outcome = answer at hends
  cases hends with
  | failed => exact .inl rfl
  | missing specifier candidates => exact .inr (.inl ⟨specifier, candidates, rfl, rfl⟩)
  | repeated referrer candidates haside => exact .inr (.inr ⟨_, referrer, candidates, rfl, haside, rfl⟩)

/-- A task whose first attempt is a fault ends in it. -/
theorem outcome_settle_of_step {t : Task} {cause : Fault} (h : (t.step packer).outcome = .error cause) :
    (t.settle packer).outcome = .error cause := by
  rw [settle]
  dsimp only
  split
  · rename_i hcause
    cases hcause.symm.trans h
    rfl
  · rename_i hdone
    cases hdone.symm.trans h
  · rename_i hagain
    cases hagain.symm.trans h

end Task

/-! ### Traversals -/

namespace Traversal

/-- How the task for an entrypoint ends. -/
def outcomeAt (packer : Packer) (seed : List String) (entrypoint : String) :
    Except Fault EntrypointResult :=
  ((Task.start entrypoint seed).settle packer).outcome

/-- A task that ends well has made a pack from its entrypoint, whatever was put aside by then, and its result has the
files and the resolutions of the pack. -/
theorem exists_pack_of_outcomeAt (job : PackJob) {seed : List String} {entrypoint : String}
    {result : EntrypointResult} (h : outcomeAt job.packer seed entrypoint = .ok result) :
    ∃ deferred pack, ((job.deferring deferred).pack entrypoint).outcome = .ok (.packed pack) ∧
      result.files = pack.files.keys ∧ result.resolutions = pack.resolutions := by
  obtain ⟨last, hlast, hstep⟩ := Task.exists_step_of_settle job.packer (Task.start entrypoint seed)
  change _ = (outcomeAt job.packer seed entrypoint).map _ at hstep
  rw [h] at hstep
  obtain ⟨pack, hpack, rfl⟩ := Task.exists_pack_of_step hstep
  rw [hlast] at hpack
  exact ⟨last.deferred, pack, hpack, rfl, rfl⟩

theorem outcome_results (settled : List Task.Settled) :
    (results settled).outcome = settled.mapM (·.outcome) := by
  induction settled with
  | nil => rfl
  | cons first rest ih =>
    rw [results, List.mapM_cons]
    cases first.outcome with
    | error cause => rfl
    | ok result =>
      dsimp only
      rw [Run.outcome_bind, ih]
      rfl

/-- A traversal ends as its tasks do, one after the other. -/
theorem outcome_run (packer : Packer) (texts seed : List String) :
    (run packer texts seed).outcome =
      ((entrypoints texts).mapM (outcomeAt packer seed)).map Report.merge := by
  have hconclude : ∀ settled, (conclude settled).outcome = (results settled).outcome.map Report.merge := by
    intro settled
    rw [conclude, Run.outcome_bind]
    cases (results settled).outcome <;> rfl
  rw [run, Run.outcome_noting, hconclude, outcome_results, settle, List.mapM_map]
  rfl

/-- A text names one entrypoint. -/
theorem entrypoints_singleton (text : String) : entrypoints [text] = [Path.normalize text] := rfl

/-- The entrypoints are the canonical paths that the texts name. -/
theorem mem_entrypoints {texts : List String} {path : String} :
    path ∈ entrypoints texts ↔ ∃ text ∈ texts, Path.normalize text = path := by
  rw [entrypoints, List.mem_eraseDups, List.mem_map]

/-- An entrypoint is canonical, so the program of its task starts with it. -/
theorem normalize_of_mem_entrypoints {texts : List String} {entrypoint : String}
    (h : entrypoint ∈ entrypoints texts) : Path.normalize entrypoint = entrypoint := by
  obtain ⟨text, -, rfl⟩ := mem_entrypoints.1 h
  exact Path.normalize_normalize text

/-- A traversal from one entrypoint reports on its result. -/
theorem outcome_run_singleton (packer : Packer) (text : String) (seed : List String) :
    (run packer [text] seed).outcome =
      (outcomeAt packer seed (Path.normalize text)).map fun result => Report.merge [result] := by
  rw [outcome_run, entrypoints_singleton, List.mapM_cons]
  cases outcomeAt packer seed (Path.normalize text) <;> rfl

/-- A traversal ends well exactly if each of its tasks does. -/
theorem exists_run_iff {packer : Packer} {texts seed : List String} :
    (∃ report, (run packer texts seed).outcome = .ok report) ↔
      ∀ entrypoint ∈ entrypoints texts, ∃ result, outcomeAt packer seed entrypoint = .ok result := by
  rw [← exists_mapM_iff, outcome_run]
  cases (entrypoints texts).mapM (outcomeAt packer seed) with
  | error cause => simp [Except.map]
  | ok results => simp [Except.map]

/-- A traversal that ends well reports on the results of its tasks. -/
theorem exists_results_of_run {packer : Packer} {texts seed : List String} {report : Report}
    (h : (run packer texts seed).outcome = .ok report) :
    ∃ results, report = Report.merge results ∧ ∀ result, result ∈ results ↔
      ∃ entrypoint ∈ entrypoints texts, outcomeAt packer seed entrypoint = .ok result := by
  rw [outcome_run] at h
  cases hresults : (entrypoints texts).mapM (outcomeAt packer seed) with
  | error cause =>
    rw [hresults] at h
    cases h
  | ok results =>
    rw [hresults] at h
    cases h
    exact ⟨results, rfl, fun result => mem_iff_of_map_eq (mapM_eq_ok_iff.1 hresults)⟩

/-- A traversal fails as the first of its tasks does that fails. -/
theorem outcome_run_of_first {packer : Packer} {texts seed before after : List String} {entrypoint : String}
    {cause : Fault} (htexts : entrypoints texts = before ++ entrypoint :: after)
    (hbefore : ∀ earlier ∈ before, ∃ result, outcomeAt packer seed earlier = .ok result)
    (h : outcomeAt packer seed entrypoint = .error cause) : (run packer texts seed).outcome = .error cause := by
  rw [outcome_run, htexts, mapM_eq_error_of_first hbefore h]
  rfl

/-- A traversal that fails does so as one of its tasks. -/
theorem exists_of_run_eq_error {packer : Packer} {texts seed : List String} {cause : Fault}
    (h : (run packer texts seed).outcome = .error cause) :
    ∃ entrypoint ∈ entrypoints texts, outcomeAt packer seed entrypoint = .error cause := by
  rw [outcome_run] at h
  cases hresults : (entrypoints texts).mapM (outcomeAt packer seed) with
  | ok results =>
    rw [hresults] at h
    cases h
  | error cause' =>
    rw [hresults] at h
    cases h
    exact exists_of_mapM_eq_error hresults

end Traversal

end ModuleReach
