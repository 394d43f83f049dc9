import ModuleReach.Traversal.Report
import ModuleReach.Proofs.Pack.Verdict

/-!
# Sweeps

A sweep walks from source to source as making a pack does, but an entry that fails to resolve never ends it:
if the entry is not one that may fail, its specifier is put aside, so that it may fail from then on, and
the sweep goes on.  Only a fault ends a sweep early.

Making a pack with some specifiers put aside either comes to its end, and then a sweep that begins with
these has nothing to put aside; or it stops at an entry, and then a sweep goes on as if that entry had been
put aside from the beginning.  The second half is what makes starting over as good as going on.

## Main definitions

* `Tally` — what has been put aside and skipped; `Tally.meet` is what a failing entry does to it.
* `PackJob.sweepEntries`, `PackJob.sweepVisit`, `PackJob.sweepWalk`, `PackJob.sweep` — sweeping over
  entries, a source, the queued sources, and all that a program loads.

## Main results

* `PackJob.sweep_of_settled` — where making a pack comes to its end or ends in a fault, so does a sweep.
* `PackJob.sweep_of_missing` — where the file to start from is missing, a sweep ends in that fault.
* `PackJob.sweep_of_stop` — where making a pack stops at an entry, a sweep goes on with it put aside.
-/

namespace ModuleReach

/-- What a sweep has put aside and skipped so far. -/
@[ext] structure Tally where
  /-- The specifiers that may fail. -/
  deferred : List String
  skips : List Skip

/-- The tally with one more specifier put aside, which was skipped. -/
def Tally.putAside (t : Tally) (referrer : Url) (failure : Unresolved) : Tally where
  deferred := t.deferred ++ [failure.specifier]
  skips := t.skips ++ [⟨failure.specifier, referrer, failure.candidates⟩]

/-- The tally after an entry that fails to resolve: an entry that may fail leaves it as it is. -/
def Tally.meet (t : Tally) (referrer : Url) (entry : Entry) (failure : Unresolved) : Tally :=
  if PackJob.Forgives t.deferred entry failure then t else t.putAside referrer failure

theorem Tally.meet_of_forgives {t : Tally} {referrer : Url} {entry : Entry} {failure : Unresolved}
    (h : PackJob.Forgives t.deferred entry failure) : t.meet referrer entry failure = t :=
  if_pos h

/-- What was put aside may fail. -/
theorem Tally.forgives_putAside (t : Tally) (referrer : Url) (entry : Entry)
    (failure : Unresolved) : PackJob.Forgives (t.putAside referrer failure).deferred entry failure :=
  .inl (by simp [putAside])

/-- A tally and what it was made from by a sweep: the specifiers that may fail are kept. -/
theorem Tally.subset_putAside (t : Tally) (referrer : Url) (failure : Unresolved) :
    t.deferred ⊆ (t.putAside referrer failure).deferred := by
  intro s hs
  simp [putAside, hs]

/-- What comes of a part of a sweep. -/
structure Swept (α : Type) where
  tally : Tally
  outcome : Except Fault α

namespace PackJob

/-! ### Sweeping -/

/-- A sweep over some entries of the source at a path. -/
def sweepEntries (job : PackJob) (visited : List String) (path : String) :
    List Entry → Tally → Packed → List String → Swept (Packed × List String)
  | [], tally, pack, queued => ⟨tally, .ok (pack, queued)⟩
  | entry :: rest, tally, pack, queued =>
    let referrer := job.store.url path
    match job.verdict path entry with
    | .builtin => job.sweepEntries visited path rest tally pack queued
    | .fault cause => ⟨tally, .error cause⟩
    | .failed failure =>
      job.sweepEntries visited path rest (tally.meet referrer entry failure) pack queued
    | .found url =>
      match job.addFile pack.files url with
      | .error cause => ⟨tally, .error cause⟩
      | .ok none =>
        job.sweepEntries visited path rest
          (tally.meet referrer entry ⟨entry.specifier, some referrer, [url.href]⟩) pack queued
      | .ok (some files) =>
        job.sweepEntries visited path rest tally
          ⟨files, pack.resolutions.add referrer.href entry.specifier url.href⟩
          (queued ++ next visited entry url)

/-- A sweep over the file at a path. -/
def sweepVisit (job : PackJob) (visited : List String) (path : String) (tally : Tally)
    (pack : Packed) : Swept (Packed × List String) :=
  match job.source? path with
  | .error cause => ⟨tally, .error cause⟩
  | .ok none => ⟨tally, .ok (pack, [])⟩
  | .ok (some text) => job.sweepEntries visited path (job.lexer text) tally pack []

/-- A sweep over entries queues only paths that some of them lead to. -/
theorem mem_of_sweepEntries {job : PackJob} {visited : List String} {path p : String}
    {entries : List Entry} {tally : Tally} {pack pack' : Packed} {queued queued' : List String}
    (h : (job.sweepEntries visited path entries tally pack queued).outcome = .ok (pack', queued'))
    (hp : p ∈ queued') :
    p ∈ queued ∨ ∃ entry ∈ entries, ∃ url,
      (job.answer path entry).outcome = .ok (.resolved url) ∧ url.pathname = p := by
  induction entries generalizing tally pack queued with
  | nil =>
    rw [sweepEntries, Except.ok.injEq, Prod.mk.injEq] at h
    exact .inl (h.2 ▸ hp)
  | cons entry rest ih =>
    -- What holds of the entries that are left holds of all of them.
    have lift : ∀ {q : List String}, (p ∈ q ∨ ∃ e ∈ rest, ∃ url,
        (job.answer path e).outcome = .ok (.resolved url) ∧ url.pathname = p) →
        (p ∈ q ∨ ∃ e ∈ entry :: rest, ∃ url,
        (job.answer path e).outcome = .ok (.resolved url) ∧ url.pathname = p) := by
      rintro q (h | ⟨e, he, h⟩)
      · exact .inl h
      · exact .inr ⟨e, List.mem_cons_of_mem _ he, h⟩
    rw [sweepEntries] at h
    cases hverdict : job.verdict path entry with
    | builtin =>
      rw [hverdict] at h
      exact lift (ih h)
    | fault cause =>
      rw [hverdict] at h
      cases h
    | failed failure =>
      rw [hverdict] at h
      exact lift (ih h)
    | found url =>
      rw [hverdict] at h
      dsimp only at h
      split at h
      · cases h
      · exact lift (ih h)
      · rcases lift (ih h) with hq | hr
        · rcases List.mem_append.1 hq with hq | hq
          · exact .inl hq
          · unfold next at hq
            split at hq
            · simp at hq
            · exact .inr ⟨entry, by simp, url, (verdict_eq_found_iff.1 hverdict).2,
                (List.mem_singleton.1 hq).symm⟩
        · exact .inr hr

/-- A sweep over a file queues only paths that entries of sources lead to. -/
theorem reaches_of_sweepVisit {job : PackJob} {visited : List String} {path p : String}
    {tally : Tally} {pack pack' : Packed} {queued : List String}
    (h : (job.sweepVisit visited path tally pack).outcome = .ok (pack', queued))
    (hp : p ∈ queued) : job.Reaches p := by
  unfold sweepVisit at h
  split at h
  · cases h
  · cases h
    cases hp
  · rename_i text hsource
    rcases mem_of_sweepEntries h hp with hq | ⟨entry, hentry, url, hurl, hpath⟩
    · cases hq
    · exact ⟨path, entry, url, occurs_of_source? hsource hentry, hurl, hpath⟩

/-- A sweep over the queued sources. -/
def sweepWalk (job : PackJob) (root : String) (visited : List String) (tally : Tally)
    (pack : Packed) :
    (queue : List String) → (∀ path ∈ queue, path ∈ root :: job.reachable) → Swept Packed
  | [], _ => ⟨tally, .ok pack⟩
  | path :: rest, hqueue =>
    if _ : path ∈ visited then
      job.sweepWalk root visited tally pack rest fun p hp => hqueue p (List.mem_cons_of_mem _ hp)
    else
      let visit := job.sweepVisit (path :: visited) path tally pack
      match hvisit : visit.outcome with
      | .error cause => ⟨visit.tally, .error cause⟩
      | .ok (pack', queued) =>
        job.sweepWalk root (path :: visited) visit.tally pack' (rest ++ queued) fun p hp =>
          (List.mem_append.1 hp).elim (fun h => hqueue p (List.mem_cons_of_mem _ h)) fun h =>
            List.mem_cons_of_mem _ (mem_reachable (reaches_of_sweepVisit hvisit h))
termination_by queue => (unvisited (root :: job.reachable) visited, queue.length)
decreasing_by
  · exact Prod.Lex.right _ (by simp)
  · exact Prod.Lex.left _ _ (unvisited_cons_lt (hqueue path (by simp)) ‹_›)

/-- A sweep over all that the program loads which starts with a file. -/
def sweep (job : PackJob) (entrypoint : String) (tally : Tally) : Swept Packed :=
  let root := Path.normalize entrypoint
  match job.store.read root with
  | .error cause => ⟨tally, .error cause⟩
  | .ok none =>
    ⟨tally, .error (.unresolved entrypoint none [(job.store.url root).href])⟩
  | .ok (some content) =>
    job.sweepWalk root [] tally
      ⟨(∅ : InsertionMap _ _).insert root ⟨job.store.url root, content.length⟩, ∅⟩
      [root] (job.start_mem root)

/-! ### One step of a sweep -/

section Step

variable {job : PackJob} {root path : String} {visited rest : List String} {tally tally' : Tally}
  {pack pack' : Packed}

theorem sweepWalk_nil (hqueue : ∀ p ∈ [], p ∈ root :: job.reachable) :
    job.sweepWalk root visited tally pack [] hqueue = ⟨tally, .ok pack⟩ := by
  rw [sweepWalk]

theorem sweepWalk_visited (h : path ∈ visited)
    (hqueue : ∀ p ∈ path :: rest, p ∈ root :: job.reachable) :
    job.sweepWalk root visited tally pack (path :: rest) hqueue =
      job.sweepWalk root visited tally pack rest
        fun p hp => hqueue p (List.mem_cons_of_mem _ hp) := by
  rw [sweepWalk, dif_pos h]

theorem sweepWalk_error (h : path ∉ visited) {cause : Fault}
    (hvisit : job.sweepVisit (path :: visited) path tally pack = ⟨tally', .error cause⟩)
    (hqueue : ∀ p ∈ path :: rest, p ∈ root :: job.reachable) :
    job.sweepWalk root visited tally pack (path :: rest) hqueue = ⟨tally', .error cause⟩ := by
  rw [sweepWalk, dif_neg h]
  dsimp only
  split
  · simp_all
  · rename_i pack' queued hok
    have hcause := hok.symm.trans (congrArg Swept.outcome hvisit)
    cases hcause

/-- What is queued after a sweep over a source is still within reach. -/
theorem mem_queue_of_sweepVisit {queued : List String}
    (hvisit : job.sweepVisit (path :: visited) path tally pack = ⟨tally', .ok (pack', queued)⟩)
    (hqueue : ∀ p ∈ path :: rest, p ∈ root :: job.reachable) :
    ∀ p ∈ rest ++ queued, p ∈ root :: job.reachable := by
  intro p hp
  rcases List.mem_append.1 hp with hp | hp
  · exact hqueue p (List.mem_cons_of_mem _ hp)
  · exact List.mem_cons_of_mem _
      (mem_reachable (reaches_of_sweepVisit (congrArg Swept.outcome hvisit) hp))

theorem sweepWalk_ok (h : path ∉ visited) {queued : List String}
    (hvisit : job.sweepVisit (path :: visited) path tally pack = ⟨tally', .ok (pack', queued)⟩)
    (hqueue : ∀ p ∈ path :: rest, p ∈ root :: job.reachable)
    (hqueue' : ∀ p ∈ rest ++ queued, p ∈ root :: job.reachable) :
    job.sweepWalk root visited tally pack (path :: rest) hqueue =
      job.sweepWalk root (path :: visited) tally' pack' (rest ++ queued) hqueue' := by
  rw [sweepWalk, dif_neg h]
  dsimp only
  split
  · simp_all
  · rename_i hok
    have hresult := hok.symm.trans (congrArg Swept.outcome hvisit)
    cases hresult
    have htally := congrArg Swept.tally hvisit
    rw [htally]

/-- Sweeps that do the same with the first source are the same. -/
theorem sweepWalk_congr (h : path ∉ visited)
    (hvisit : job.sweepVisit (path :: visited) path tally pack =
      job.sweepVisit (path :: visited) path tally' pack')
    (hqueue : ∀ p ∈ path :: rest, p ∈ root :: job.reachable) :
    job.sweepWalk root visited tally pack (path :: rest) hqueue =
      job.sweepWalk root visited tally' pack' (path :: rest) hqueue := by
  cases hswept : job.sweepVisit (path :: visited) path tally' pack' with
  | mk final outcome =>
    cases outcome with
    | error cause => rw [sweepWalk_error h (hvisit.trans hswept), sweepWalk_error h hswept]
    | ok result =>
      have hqueue' := mem_queue_of_sweepVisit hswept hqueue
      rw [sweepWalk_ok h (hvisit.trans hswept) hqueue hqueue', sweepWalk_ok h hswept hqueue hqueue']

end Step

/-! ### Where nothing is a reason to stop -/

section Settled

variable {job : PackJob} {tally : Tally}

/-- Where no entry is a reason to stop, a sweep does the same and has nothing to put aside. -/
theorem sweepEntries_of_settled (hjob : job.Honest) (hsub : job.deferred ⊆ tally.deferred)
    {visited : List String} {path : String} {entries : List Entry} {pack : Packed}
    {queued : List String} {result : Except Fault (Packed × List String)}
    (h : (job.visitEntries visited path entries pack queued).outcome = result.map .ok) :
    job.sweepEntries visited path entries tally pack queued = ⟨tally, result⟩ := by
  induction entries generalizing pack queued with
  | nil =>
    rw [visitEntries, Run.outcome_pure] at h
    cases result with
    | error cause => cases h
    | ok result =>
      cases h
      rw [sweepEntries]
  | cons entry rest ih =>
    rw [sweepEntries]
    cases hverdict : job.verdict path entry with
    | builtin =>
      rw [outcome_visitEntries_builtin hverdict] at h
      exact ih h
    | fault cause =>
      rw [outcome_visitEntries_fault hverdict] at h
      cases result <;> cases h
      rfl
    | failed failure =>
      by_cases hforgives : Forgives job.deferred entry failure
      · rw [outcome_visitEntries_forgiven hverdict hforgives] at h
        dsimp only
        rw [Tally.meet_of_forgives (hforgives.mono hsub)]
        exact ih h
      · -- The visit would have stopped here.
        rw [outcome_visitEntries_stop hverdict hforgives] at h
        cases result <;> cases h
    | found url =>
      rw [outcome_visitEntries_found hjob hverdict] at h
      dsimp only
      rw [hjob.addFile_eq hverdict]
      exact ih h

/-- The same for a source. -/
theorem sweepVisit_of_settled (hjob : job.Honest) (hsub : job.deferred ⊆ tally.deferred)
    {visited : List String} {path : String} {pack : Packed}
    {result : Except Fault (Packed × List String)}
    (h : (job.visit visited path pack).outcome = result.map .ok) :
    job.sweepVisit visited path tally pack = ⟨tally, result⟩ := by
  rw [outcome_visit_eq] at h
  rw [sweepVisit]
  cases hsource : job.source? path with
  | error cause =>
    simp only [hsource] at h ⊢
    cases result <;> cases h
    rfl
  | ok text? =>
    cases text? with
    | none =>
      simp only [hsource] at h ⊢
      cases result <;> cases h
      rfl
    | some text =>
      simp only [hsource] at h ⊢
      exact sweepEntries_of_settled hjob hsub h

/-- The same for the queued sources. -/
theorem sweepWalk_of_settled (hjob : job.Honest) (hsub : job.deferred ⊆ tally.deferred)
    {root : String} {visited : List String} {pack : Packed} {queue : List String}
    {hqueue : ∀ path ∈ queue, path ∈ root :: job.reachable} {result : Except Fault Packed}
    (h : (job.walk root visited pack queue hqueue).outcome = result.map .packed) :
    job.sweepWalk root visited tally pack queue hqueue = ⟨tally, result⟩ := by
  fun_induction walk job root visited pack queue hqueue with
  | case1 visited pack =>
    rw [sweepWalk_nil]
    cases result <;> cases h
    rfl
  | case2 visited pack path rest hqueue hvisited _ ih =>
    rw [sweepWalk_visited hvisited]
    exact ih h
  | case3 visited pack path rest hqueue hnew visit cause hvisit =>
    have hswept : job.sweepVisit (path :: visited) path tally pack = ⟨tally, .error cause⟩ :=
      sweepVisit_of_settled hjob hsub hvisit
    rw [sweepWalk_error hnew hswept]
    cases result <;> cases h
    rfl
  | case4 visited pack path rest hqueue hnew visit failure hvisit =>
    cases result <;> cases h
  | case5 visited pack path rest hqueue hnew visit pack' queued hvisit _ ih =>
    have hswept : job.sweepVisit (path :: visited) path tally pack = ⟨tally, .ok (pack', queued)⟩ :=
      sweepVisit_of_settled hjob hsub hvisit
    rw [sweepWalk_ok hnew hswept]
    exact ih h

end Settled

/-! ### Where an entry is a reason to stop -/

section Stop

variable {job : PackJob} {tally : Tally} {failure : Unresolved}

/-- Where visiting entries stops at one of them, a sweep goes on as if that entry had been put aside from
the beginning. -/
theorem sweepEntries_of_stop (hjob : job.Honest) (htally : tally.deferred = job.deferred)
    {visited : List String} {path : String} {entries : List Entry} {pack : Packed}
    {queued : List String}
    (h : (job.visitEntries visited path entries pack queued).outcome = .ok (.error failure)) :
    failure.referrer = some (job.store.url path) ∧ failure.specifier ∉ job.deferred ∧
      job.sweepEntries visited path entries tally pack queued =
        job.sweepEntries visited path entries
          (tally.putAside (job.store.url path) failure) pack queued := by
  induction entries generalizing pack queued with
  | nil => cases h
  | cons entry rest ih =>
    rw [sweepEntries, sweepEntries]
    cases hverdict : job.verdict path entry with
    | builtin =>
      rw [outcome_visitEntries_builtin hverdict] at h
      exact ih h
    | fault cause =>
      rw [outcome_visitEntries_fault hverdict] at h
      cases h
    | failed failure' =>
      by_cases hforgives : Forgives job.deferred entry failure'
      · -- The entry is passed over with either tally.
        rw [outcome_visitEntries_forgiven hverdict hforgives] at h
        rw [← htally] at hforgives
        dsimp only
        rw [Tally.meet_of_forgives hforgives,
          Tally.meet_of_forgives (hforgives.mono (tally.subset_putAside _ _))]
        exact ih h
      · -- This is the entry: one tally puts it aside now, the other has done so.
        rw [outcome_visitEntries_stop hverdict hforgives, Except.ok.injEq, Except.error.injEq] at h
        subst h
        have hnew : failure'.specifier ∉ job.deferred := fun hmem => hforgives (.inl hmem)
        rw [← htally] at hforgives
        refine ⟨hjob.names hverdict, hnew, ?_⟩
        dsimp only
        rw [Tally.meet_of_forgives (tally.forgives_putAside _ entry _), Tally.meet,
          if_neg hforgives]
    | found url =>
      rw [outcome_visitEntries_found hjob hverdict] at h
      dsimp only
      rw [hjob.addFile_eq hverdict]
      exact ih h

/-- The same for a source. -/
theorem sweepVisit_of_stop (hjob : job.Honest) (htally : tally.deferred = job.deferred)
    {visited : List String} {path : String} {pack : Packed}
    (h : (job.visit visited path pack).outcome = .ok (.error failure)) :
    failure.referrer = some (job.store.url path) ∧ failure.specifier ∉ job.deferred ∧
      job.sweepVisit visited path tally pack =
        job.sweepVisit visited path (tally.putAside (job.store.url path) failure) pack := by
  rw [outcome_visit_eq] at h
  rw [sweepVisit, sweepVisit]
  cases hsource : job.source? path with
  | error cause =>
    simp only [hsource] at h
    cases h
  | ok text? =>
    cases text? with
    | none =>
      simp only [hsource] at h
      cases h
    | some text =>
      simp only [hsource] at h ⊢
      exact sweepEntries_of_stop hjob htally h

/-- The same for the queued sources. -/
theorem sweepWalk_of_stop (hjob : job.Honest) (htally : tally.deferred = job.deferred)
    {root : String} {visited : List String} {pack : Packed} {queue : List String}
    {hqueue : ∀ path ∈ queue, path ∈ root :: job.reachable}
    (h : (job.walk root visited pack queue hqueue).outcome = .ok (.unresolved failure)) :
    ∃ referrer, failure.referrer = some referrer ∧ failure.specifier ∉ job.deferred ∧
      job.sweepWalk root visited tally pack queue hqueue =
        job.sweepWalk root visited (tally.putAside referrer failure) pack queue hqueue := by
  fun_induction walk job root visited pack queue hqueue with
  | case1 visited pack => cases h
  | case2 visited pack path rest hqueue hvisited _ ih =>
    obtain ⟨referrer, hreferrer, hfresh, heq⟩ := ih h
    refine ⟨referrer, hreferrer, hfresh, ?_⟩
    rw [sweepWalk_visited hvisited, sweepWalk_visited hvisited]
    exact heq
  | case3 visited pack path rest hqueue hnew visit cause hvisit => cases h
  | case4 visited pack path rest hqueue hnew visit failure' hvisit =>
    -- The walk stops in this source, and the sweeps agree from here on.
    cases h
    obtain ⟨hreferrer, hfresh, heq⟩ := sweepVisit_of_stop hjob htally hvisit
    exact ⟨job.store.url path, hreferrer, hfresh, sweepWalk_congr hnew heq hqueue⟩
  | case5 visited pack path rest hqueue hnew visit pack' queued hvisit _ ih =>
    obtain ⟨referrer, hreferrer, hfresh, heq⟩ := ih h
    refine ⟨referrer, hreferrer, hfresh, ?_⟩
    -- The source itself gives no reason to stop, whatever else is put aside.
    have hsub : job.deferred ⊆ tally.deferred := htally ▸ List.Subset.refl _
    have hswept : job.sweepVisit (path :: visited) path tally pack = ⟨tally, .ok (pack', queued)⟩ :=
      sweepVisit_of_settled hjob hsub hvisit
    have hswept' : job.sweepVisit (path :: visited) path (tally.putAside referrer failure) pack =
        ⟨tally.putAside referrer failure, .ok (pack', queued)⟩ :=
      sweepVisit_of_settled hjob (List.Subset.trans hsub (tally.subset_putAside _ _)) hvisit
    rw [sweepWalk_ok hnew hswept, sweepWalk_ok hnew hswept']
    exact heq

end Stop

/-! ### Making a pack -/

section Pack

variable {job : PackJob} {tally : Tally} {entrypoint : String}

/-- Where making a pack comes to an end, a sweep comes to the same end with nothing put aside. -/
theorem sweep_of_settled (hjob : job.Honest) (hsub : job.deferred ⊆ tally.deferred)
    {result : Except Fault Packed} (h : (job.pack entrypoint).outcome = result.map .packed) :
    job.sweep entrypoint tally = ⟨tally, result⟩ := by
  rw [pack] at h
  rw [sweep]
  cases hread : job.store.read (Path.normalize entrypoint) with
  | error cause =>
    simp only [hread] at h ⊢
    cases result <;> cases h
    rfl
  | ok content? =>
    cases content? with
    | none =>
      simp only [hread] at h
      cases result <;> cases h
    | some content =>
      simp only [hread] at h ⊢
      exact sweepWalk_of_settled hjob hsub h

/-- Where the file to start from is missing, a sweep ends in that fault. -/
theorem sweep_of_missing (hjob : job.Honest) {failure : Unresolved}
    (h : (job.pack entrypoint).outcome = .ok (.unresolved failure))
    (hreferrer : failure.referrer = none) :
    failure.specifier = entrypoint ∧ job.sweep entrypoint tally =
      ⟨tally, .error (.unresolved failure.specifier none failure.candidates)⟩ := by
  rw [pack] at h
  rw [sweep]
  cases hread : job.store.read (Path.normalize entrypoint) with
  | error cause =>
    simp only [hread] at h
    cases h
  | ok content? =>
    cases content? with
    | none =>
      simp only [hread] at h ⊢
      cases h
      exact ⟨rfl, rfl⟩
    | some content =>
      simp only [hread] at h
      -- A walk that stops at an entry names the source in which the entry stands.
      have hstop := @sweepWalk_of_stop job ⟨job.deferred, []⟩ failure hjob rfl
      obtain ⟨referrer, hsome, -⟩ := hstop h
      rw [hreferrer] at hsome
      cases hsome

/-- Where making a pack stops at an entry, a sweep goes on as if that entry had been put aside from the
beginning. -/
theorem sweep_of_stop (hjob : job.Honest) (htally : tally.deferred = job.deferred)
    {failure : Unresolved} {referrer : Url}
    (h : (job.pack entrypoint).outcome = .ok (.unresolved failure))
    (hreferrer : failure.referrer = some referrer) :
    failure.specifier ∉ job.deferred ∧
      job.sweep entrypoint tally = job.sweep entrypoint (tally.putAside referrer failure) := by
  rw [pack] at h
  rw [sweep, sweep]
  cases hread : job.store.read (Path.normalize entrypoint) with
  | error cause =>
    simp only [hread] at h
    cases h
  | ok content? =>
    cases content? with
    | none =>
      simp only [hread] at h
      cases h
      cases hreferrer
    | some content =>
      simp only [hread] at h ⊢
      obtain ⟨referrer', hsome, hfresh, heq⟩ := sweepWalk_of_stop hjob htally h
      rw [hreferrer, Option.some.injEq] at hsome
      subst hsome
      exact ⟨hfresh, heq⟩

end Pack

/-! ### What may fail from the beginning -/

section Deferring

variable {job : PackJob} {deferred : List String}

theorem sweepEntries_deferring (visited : List String) (path : String) (entries : List Entry)
    (tally : Tally) (pack : Packed) (queued : List String) :
    (job.deferring deferred).sweepEntries visited path entries tally pack queued =
      job.sweepEntries visited path entries tally pack queued := by
  induction entries generalizing tally pack queued with
  | nil => rfl
  | cons entry rest ih =>
    rw [sweepEntries, sweepEntries, verdict_deferring]
    have hurl : (job.deferring deferred).store.url path = job.store.url path := rfl
    have hfile : ∀ url, (job.deferring deferred).addFile pack.files url =
        job.addFile pack.files url := fun url => rfl
    simp only [ih, hurl, hfile]

theorem sweepWalk_deferring (root : String) (visited : List String) (tally : Tally)
    (pack : Packed) (queue : List String)
    (hqueue : ∀ path ∈ queue, path ∈ root :: job.reachable)
    (hqueue' : ∀ path ∈ queue, path ∈ root :: (job.deferring deferred).reachable) :
    (job.deferring deferred).sweepWalk root visited tally pack queue hqueue' =
      job.sweepWalk root visited tally pack queue hqueue := by
  have hvisit : ∀ visited path tally pack,
      (job.deferring deferred).sweepVisit visited path tally pack =
        job.sweepVisit visited path tally pack := by
    intro visited path tally pack
    unfold sweepVisit
    simp only [sweepEntries_deferring]
    rfl
  fun_induction sweepWalk job root visited tally pack queue hqueue with
  | case1 visited tally pack => rw [sweepWalk_nil]
  | case2 visited tally pack path rest hqueue hvisited _ ih =>
    rw [sweepWalk_visited hvisited]
    exact ih _
  | case3 visited tally pack path rest hqueue hnew visit cause hcause =>
    exact sweepWalk_error hnew ((hvisit _ _ _ _).trans (by rw [← hcause])) _
  | case4 visited tally pack path rest hqueue hnew visit pack' queued hok _ ih =>
    have hswept : (job.deferring deferred).sweepVisit (path :: visited) path tally pack =
        ⟨visit.tally, .ok (pack', queued)⟩ := (hvisit _ _ _ _).trans (by rw [← hok])
    rw [sweepWalk_ok hnew hswept hqueue' (mem_queue_of_sweepVisit hswept hqueue')]
    exact ih _

/-- A sweep asks the tally, and not the job, what may fail. -/
theorem sweep_deferring (entrypoint : String) (tally : Tally) :
    (job.deferring deferred).sweep entrypoint tally = job.sweep entrypoint tally := by
  unfold sweep
  dsimp only
  have hread : (job.deferring deferred).store = job.store := rfl
  rw [hread]
  split
  · rfl
  · rfl
  · exact sweepWalk_deferring _ _ _ _ _ _ _

end Deferring

end PackJob

end ModuleReach
