import ModuleReach.Pack.Walk
import ModuleReach.Proofs.Resolution.Closed

/-!
# What becomes of an entry

Which specifiers may fail does not matter for what an entry leads to.  The verdict on an entry is what
is left when they are not looked at: the entry belongs to the runtime, or its answer is a fault, or it
fails to resolve, or it leads to a file.

A job is honest if its answers can be trusted: a file that an entry leads to is there, and an entry
that fails is said to stand in the file where it stands.  The jobs that walk through a closed store with
the standard resolver are honest.

## Main definitions

* `PackJob.Verdict`, `PackJob.verdict` — what becomes of an entry.
* `PackJob.Forgives` — whether an entry that fails to resolve is passed over.
* `PackJob.source?` — the text of a source.
* `PackJob.Honest` — the jobs whose answers can be trusted.
* `PackJob.withFile` — some files with one that is there.

## Main results

* `PackJob.outcome_visitEntries_builtin` and the five after it — one step of a visit, by verdict.
* `PackJob.honest_standard` — walking through a closed store is an honest job.
-/

namespace ModuleReach

namespace PackJob

/-! ### Verdicts -/

/-- What becomes of an entry, whichever specifiers may fail. -/
inductive Verdict
  /-- The specifier is not looked for. -/
  | builtin
  /-- There is no answer. -/
  | fault (cause : Fault)
  /-- The entry fails to resolve. -/
  | failed (failure : Unresolved)
  /-- The entry leads to a file. -/
  | found (url : Url)
  deriving DecidableEq, Repr

/-- What becomes of an entry of the source at a path. -/
def verdict (job : PackJob) (path : String) (entry : Entry) : Verdict :=
  if entry.specifier ∈ job.builtins then .builtin
  else
    match (job.answer path entry).outcome with
    | .error cause => .fault cause
    | .ok (.unresolved failure) => .failed failure
    | .ok (.resolved url) => .found url

/-- Whether an entry that fails to resolve is passed over: its own specifier may fail, or the one
that the answer names. -/
def Forgives (deferred : List String) (entry : Entry) (failure : Unresolved) : Prop :=
  failure.specifier ∈ deferred ∨ entry.specifier ∈ deferred

instance (deferred : List String) (entry : Entry) (failure : Unresolved) :
    Decidable (Forgives deferred entry failure) := inferInstanceAs (Decidable (_ ∨ _))

theorem Forgives.mono {deferred deferred' : List String} {entry : Entry} {failure : Unresolved}
    (h : Forgives deferred entry failure) (hsub : deferred ⊆ deferred') :
    Forgives deferred' entry failure :=
  h.imp (fun h => hsub h) fun h => hsub h

/-- The job with other specifiers that may fail. -/
def deferring (job : PackJob) (deferred : List String) : PackJob := { job with deferred }

/-- What may fail does not change the verdict. -/
@[simp] theorem verdict_deferring (job : PackJob) (deferred : List String) (path : String)
    (entry : Entry) : (job.deferring deferred).verdict path entry = job.verdict path entry := rfl

theorem verdict_eq_builtin_iff {job : PackJob} {path : String} {entry : Entry} :
    job.verdict path entry = .builtin ↔ entry.specifier ∈ job.builtins := by
  unfold verdict
  split
  · simp_all
  · split <;> simp_all

theorem verdict_eq_fault_iff {job : PackJob} {path : String} {entry : Entry} {cause : Fault} :
    job.verdict path entry = .fault cause ↔
      entry.specifier ∉ job.builtins ∧ (job.answer path entry).outcome = .error cause := by
  unfold verdict
  split
  · simp_all
  · split <;> simp_all

theorem verdict_eq_failed_iff {job : PackJob} {path : String} {entry : Entry}
    {failure : Unresolved} :
    job.verdict path entry = .failed failure ↔
      entry.specifier ∉ job.builtins ∧
        (job.answer path entry).outcome = .ok (.unresolved failure) := by
  unfold verdict
  split
  · simp_all
  · split <;> simp_all

theorem verdict_eq_found_iff {job : PackJob} {path : String} {entry : Entry} {url : Url} :
    job.verdict path entry = .found url ↔
      entry.specifier ∉ job.builtins ∧ (job.answer path entry).outcome = .ok (.resolved url) := by
  unfold verdict
  split
  · simp_all
  · split <;> simp_all

/-! ### Sources -/

/-- The text of the source at a path; none if there is no file or if it is no source. -/
def source? (job : PackJob) (path : String) : Except Fault (Option String) :=
  match job.store.read path with
  | .error cause => .error cause
  | .ok none => .ok none
  | .ok (some content) => (Source.text? path content).outcome

/-- A visit goes through the entries of the source at the path. -/
theorem outcome_visit_eq (job : PackJob) (visited : List String) (path : String) (pack : Packed) :
    (job.visit visited path pack).outcome =
      match job.source? path with
      | .error cause => .error cause
      | .ok none => .ok (.ok (pack, []))
      | .ok (some text) => (job.visitEntries visited path (job.lexer text) pack []).outcome := by
  rw [visit, source?]
  cases job.store.read path with
  | error cause => rfl
  | ok content? =>
    cases content? with
    | none => rfl
    | some content =>
      dsimp only
      cases (Source.text? path content).outcome with
      | error cause => rfl
      | ok text? => cases text? <;> rfl

theorem occurs_of_source? {job : PackJob} {path text : String} (h : job.source? path = .ok (some text))
    {entry : Entry} (hentry : entry ∈ job.lexer text) : job.Occurs path entry := by
  unfold source? at h
  cases hread : job.store.read path with
  | error cause =>
    rw [hread] at h
    cases h
  | ok content? =>
    rw [hread] at h
    cases content? with
    | none => cases h
    | some content => exact ⟨content, text, hread, h, hentry⟩

/-! ### Honest jobs -/

/-- A job whose answers can be trusted. -/
structure Honest (job : PackJob) : Prop where
  /-- A file that an entry leads to is there, under its own URL. -/
  finds : ∀ {path entry url}, job.verdict path entry = .found url →
    url = job.store.url url.pathname ∧ ∃ content, job.store.read url.pathname = .ok (some content)
  /-- An entry that fails is said to stand in the file where it stands. -/
  names : ∀ {path entry failure}, job.verdict path entry = .failed failure →
    failure.referrer = some (job.store.url path)

/-- What may fail does not matter for honesty. -/
theorem Honest.deferring {job : PackJob} (h : job.Honest) (deferred : List String) :
    (job.deferring deferred).Honest := ⟨h.finds, h.names⟩

/-- Some files with the one under a URL, which is there. -/
def withFile (job : PackJob) (files : InsertionMap String PackedFile) (url : Url) :
    InsertionMap String PackedFile :=
  match job.store.read url.pathname with
  | .ok (some content) =>
    if files.contains url.pathname then files
    else files.insert url.pathname ⟨url, content.length⟩
  | _ => files

theorem Honest.addFile_eq {job : PackJob} (h : job.Honest) {path : String} {entry : Entry}
    {url : Url} (hurl : job.verdict path entry = .found url)
    (files : InsertionMap String PackedFile) :
    job.addFile files url = .ok (some (job.withFile files url)) := by
  obtain ⟨-, content, hcontent⟩ := h.finds hurl
  unfold addFile withFile
  rw [hcontent]
  split <;> simp_all [Except.map]

/-- A store that is walked through with the standard resolver. -/
def standard (store : Store) (lexer : Lexer) (builtins targets deferred : List String) : PackJob :=
  ⟨store, Resolver.standard store, lexer, builtins, targets, deferred⟩

section Standard

variable {store : Store} {lexer : Lexer} {builtins targets deferred : List String}

/-- Walking through a closed store is an honest job. -/
theorem honest_standard (hs : store.Closed) :
    (standard store lexer builtins targets deferred).Honest := by
  cases hconditions : buildConditions targets with
  | error cause =>
    -- Without readable targets there is no answer at all.
    have hanswer := fun path entry =>
      Resolver.outcome_standard_of_malformed store entry (some (store.url path)) hconditions
    constructor
    · intro path entry url h
      have h' := (verdict_eq_found_iff.1 h).2
      rw [answer, standard, hanswer] at h'
      cases h'
    · intro path entry failure h
      have h' := (verdict_eq_failed_iff.1 h).2
      rw [answer, standard, hanswer] at h'
      cases h'
  | ok conditions =>
    have hanswer := fun path entry =>
      Resolver.outcome_standard hs entry (some (store.url path)) hconditions
    constructor
    · intro path entry url h
      have h' := (verdict_eq_found_iff.1 h).2
      rw [answer, standard, hanswer, Except.ok.injEq] at h'
      obtain ⟨hurl, content, hcontent⟩ := Resolution.firstOf_eq_resolved h'
      exact ⟨hurl, content, by rw [standard, Store.read_eq hs, hcontent]⟩
    · intro path entry failure h
      have h' := (verdict_eq_failed_iff.1 h).2
      rw [answer, standard, hanswer, Except.ok.injEq] at h'
      exact (Resolution.firstOf_eq_unresolved h').2

/-- Targets that can all be read leave no entry without an answer. -/
theorem verdict_ne_fault (hs : store.Closed)
    (htargets : ∀ target ∈ targets, (Target.parse? target).isSome) (path : String) (entry : Entry)
    (cause : Fault) :
    (standard store lexer builtins targets deferred).verdict path entry ≠ .fault cause := by
  obtain ⟨conditions, hconditions⟩ := exists_buildConditions htargets
  intro h
  have h' := (verdict_eq_fault_iff.1 h).2
  rw [answer, standard, Resolver.outcome_standard hs entry _ hconditions] at h'
  cases h'

end Standard

/-! ### One step of a visit -/

section Step

variable {job : PackJob} {visited : List String} {path : String} {entry : Entry}
  {rest : List Entry} {pack : Packed} {queued : List String}

theorem outcome_visitEntries_builtin (h : job.verdict path entry = .builtin) :
    (job.visitEntries visited path (entry :: rest) pack queued).outcome =
      (job.visitEntries visited path rest pack queued).outcome := by
  rw [visitEntries, if_pos (verdict_eq_builtin_iff.1 h)]

theorem outcome_visitEntries_fault {cause : Fault} (h : job.verdict path entry = .fault cause) :
    (job.visitEntries visited path (entry :: rest) pack queued).outcome = .error cause := by
  obtain ⟨hbuiltin, hanswer⟩ := verdict_eq_fault_iff.1 h
  rw [visitEntries, if_neg hbuiltin]
  simp only [hanswer]

theorem outcome_visitEntries_forgiven {failure : Unresolved}
    (h : job.verdict path entry = .failed failure) (hforgives : Forgives job.deferred entry failure) :
    (job.visitEntries visited path (entry :: rest) pack queued).outcome =
      (job.visitEntries visited path rest pack queued).outcome := by
  obtain ⟨hbuiltin, hanswer⟩ := verdict_eq_failed_iff.1 h
  rw [visitEntries, if_neg hbuiltin]
  simp only [hanswer]
  unfold Forgives at hforgives
  rw [if_pos hforgives, Run.outcome_noting]

theorem outcome_visitEntries_stop {failure : Unresolved}
    (h : job.verdict path entry = .failed failure)
    (hforgives : ¬ Forgives job.deferred entry failure) :
    (job.visitEntries visited path (entry :: rest) pack queued).outcome = .ok (.error failure) := by
  obtain ⟨hbuiltin, hanswer⟩ := verdict_eq_failed_iff.1 h
  rw [visitEntries, if_neg hbuiltin]
  simp only [hanswer]
  unfold Forgives at hforgives
  rw [if_neg hforgives]

/-- An entry that is resolved, whether the answer can be trusted or not. -/
theorem outcome_visitEntries_resolved {url : Url} (h : job.verdict path entry = .found url) :
    (job.visitEntries visited path (entry :: rest) pack queued).outcome =
      match job.addFile pack.files url with
      | .error cause => .error cause
      | .ok none => .ok (.error ⟨entry.specifier, some (job.store.url path), [url.href]⟩)
      | .ok (some files) => (job.visitEntries visited path rest
          ⟨files, pack.resolutions.add (job.store.url path).href entry.specifier url.href⟩
          (queued ++ next visited entry url)).outcome := by
  obtain ⟨hbuiltin, hanswer⟩ := verdict_eq_found_iff.1 h
  rw [visitEntries, if_neg hbuiltin]
  simp only [hanswer]
  cases job.addFile pack.files url with
  | error cause => rfl
  | ok files? => cases files? <;> rfl

theorem outcome_visitEntries_found (hjob : job.Honest) {url : Url}
    (h : job.verdict path entry = .found url) :
    (job.visitEntries visited path (entry :: rest) pack queued).outcome =
      (job.visitEntries visited path rest
        ⟨job.withFile pack.files url,
          pack.resolutions.add (job.store.url path).href entry.specifier url.href⟩
        (queued ++ next visited entry url)).outcome := by
  rw [outcome_visitEntries_resolved h, hjob.addFile_eq h]

end Step

end PackJob

end ModuleReach
