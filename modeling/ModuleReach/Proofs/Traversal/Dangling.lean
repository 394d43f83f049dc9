import Mathlib.Data.List.Basic
import ModuleReach.Proofs.Store.Filled
import ModuleReach.Proofs.Traversal.Outcome

/-!
# Entries that dangle

Making a pack stops at two kinds of entries: at one that fails to resolve, unless it may fail, and at one
that is resolved to a URL under which there is no file.  The first kind asks what may fail; the second
does not.  So a resolver whose URLs cannot be trusted makes a task stop again at a specifier that it has
put aside, and that is a fault.

An entry of the second kind dangles.  A task ends in that fault only where an entry dangles, and every
task that starts at a source with such an entry ends in it, whatever was put aside from the start.

## Main definitions

* `Resolver.Answers` — the resolvers that have an answer for every entry, in the file where it stands.
* `PackJob.Dangles` — the entries that are resolved to no file.

## Main results

* `PackJob.exists_dangles_of_pack` — making a pack stops at what was put aside only where an entry
  dangles.
* `PackJob.exists_stop_of_dangles` — making a pack from a source with such an entry always stops.
* `PackJob.repeatedStop_of_dangles` — what both mean for traversals.
-/

namespace ModuleReach

/-- A resolver that has an answer for every entry, and says of one that fails that it stands in the file
where it stands. -/
def Resolver.Answers (resolve : Resolver) : Prop :=
  ∀ entry referrer targets, ∃ answer, (resolve entry referrer targets).outcome = .ok answer ∧
    ∀ failure, answer = .unresolved failure → failure.referrer = referrer

/-- Reading from a store fails only at links that lead out of it. -/
theorem Store.kind_of_read {s : Store} {path : String} {cause : Fault} (h : s.read path = .error cause) :
    cause.kind = .store := by
  unfold read Held.answer at h
  split at h <;> cases h
  rfl

namespace PackJob

variable {job : PackJob}

/-- An entry of the source at a path that is resolved to a URL under which there is no file. -/
def Dangles (job : PackJob) (path : String) (entry : Entry) : Prop :=
  job.Occurs path entry ∧
    ∃ url, job.verdict path entry = .found url ∧ job.store.read url.pathname = .ok none

/-! ### One file -/

section AddFile

variable {files files' : InsertionMap String PackedFile} {url : Url}

/-- What comes of adding a file: it is among the files already, or else it is read. -/
theorem addFile_cases (job : PackJob) (files : InsertionMap String PackedFile) (url : Url) :
    (files.contains url.pathname = true ∧ job.addFile files url = .ok (some files)) ∨
      (∃ cause, job.store.read url.pathname = .error cause ∧ job.addFile files url = .error cause) ∨
      (job.store.read url.pathname = .ok none ∧ job.addFile files url = .ok none) ∨
      ∃ content, job.store.read url.pathname = .ok (some content) ∧
        job.addFile files url = .ok (some (files.insert url.pathname ⟨url, content.length⟩)) := by
  unfold addFile
  split
  · rename_i hmem
    exact .inl ⟨hmem, rfl⟩
  · cases job.store.read url.pathname with
    | error cause => exact .inr (.inl ⟨cause, rfl, rfl⟩)
    | ok content? =>
      cases content? with
      | none => exact .inr (.inr (.inl ⟨rfl, rfl⟩))
      | some content => exact .inr (.inr (.inr ⟨content, rfl, rfl⟩))

/-- Only a file that is there can be added. -/
theorem read_of_addFile (h : job.addFile files url = .ok none) : job.store.read url.pathname = .ok none := by
  rcases job.addFile_cases files url with ⟨-, hadd⟩ | ⟨_, -, hadd⟩ | ⟨hread, -⟩ | ⟨_, -, hadd⟩
  · cases h.symm.trans hadd
  · cases h.symm.trans hadd
  · exact hread
  · cases h.symm.trans hadd

theorem read_of_addFile_error {cause : Fault} (h : job.addFile files url = .error cause) :
    job.store.read url.pathname = .error cause := by
  rcases job.addFile_cases files url with ⟨-, hadd⟩ | ⟨_, hread, hadd⟩ | ⟨-, hadd⟩ | ⟨_, -, hadd⟩
  · cases h.symm.trans hadd
  · cases h.symm.trans hadd
    exact hread
  · cases h.symm.trans hadd
  · cases h.symm.trans hadd

/-- The files of a pack are there. -/
def Present (job : PackJob) (files : InsertionMap String PackedFile) : Prop :=
  ∀ path, files.contains path = true → job.store.read path ≠ .ok none

theorem present_empty : job.Present ∅ := by
  intro path h
  cases h

theorem Present.insert (hfiles : job.Present files) {path : String} {content : Bytes}
    (h : job.store.read path = .ok (some content)) (file : PackedFile) :
    job.Present (files.insert path file) := by
  intro q hq
  rw [InsertionMap.contains, InsertionMap.get?_insert] at hq
  split at hq
  · rename_i heq
    rw [← heq, h]
    exact fun hnone => by cases hnone
  · exact hfiles q hq

theorem Present.addFile (hfiles : job.Present files) (h : job.addFile files url = .ok (some files')) :
    job.Present files' := by
  rcases job.addFile_cases files url with ⟨-, hadd⟩ | ⟨_, -, hadd⟩ | ⟨-, hadd⟩ | ⟨content, hread, hadd⟩
  · cases h.symm.trans hadd
    exact hfiles
  · cases h.symm.trans hadd
  · cases h.symm.trans hadd
  · cases h.symm.trans hadd
    exact hfiles.insert hread _

/-- What is not there is not added to files that are. -/
theorem Present.addFile_eq_none (hfiles : job.Present files) (h : job.store.read url.pathname = .ok none) :
    job.addFile files url = .ok none := by
  rcases job.addFile_cases files url with ⟨hmem, -⟩ | ⟨_, hread, -⟩ | ⟨-, hadd⟩ | ⟨_, hread, -⟩
  · exact absurd h (hfiles _ hmem)
  · cases h.symm.trans hread
  · exact hadd
  · cases h.symm.trans hread

end AddFile

/-! ### Where making a pack stops at what may fail -/

section Stop

variable {visited queued : List String} {path : String} {entries : List Entry} {pack : Packed}
  {failure : Unresolved}

/-- Visiting entries stops at a specifier that may fail only if it stops at an entry that is resolved to
no file. -/
theorem exists_of_visitEntries_deferred
    (h : (job.visitEntries visited path entries pack queued).outcome = .ok (.error failure))
    (hdeferred : failure.specifier ∈ job.deferred) :
    ∃ entry ∈ entries, (∃ url, job.verdict path entry = .found url ∧
        job.store.read url.pathname = .ok none) ∧
      entry.specifier = failure.specifier ∧ failure.referrer = some (job.store.url path) := by
  induction entries generalizing pack queued with
  | nil => cases h
  | cons entry rest ih =>
    cases hverdict : job.verdict path entry with
    | builtin =>
      rw [outcome_visitEntries_builtin hverdict] at h
      exact List.exists_mem_cons_of_exists (ih h)
    | fault cause =>
      rw [outcome_visitEntries_fault hverdict] at h
      cases h
    | failed failure' =>
      by_cases hforgives : Forgives job.deferred entry failure'
      · rw [outcome_visitEntries_forgiven hverdict hforgives] at h
        exact List.exists_mem_cons_of_exists (ih h)
      · rw [outcome_visitEntries_stop hverdict hforgives] at h
        cases h
        exact absurd (.inl hdeferred) hforgives
    | found url =>
      rw [outcome_visitEntries_resolved hverdict] at h
      split at h
      · cases h
      · rename_i hadd
        cases h
        exact ⟨entry, List.mem_cons_self, ⟨url, hverdict, read_of_addFile hadd⟩, rfl, rfl⟩
      · exact List.exists_mem_cons_of_exists (ih h)

/-- The same for a source. -/
theorem exists_dangles_of_visit (h : (job.visit visited path pack).outcome = .ok (.error failure))
    (hdeferred : failure.specifier ∈ job.deferred) :
    ∃ entry, job.Dangles path entry ∧ entry.specifier = failure.specifier ∧
      failure.referrer = some (job.store.url path) := by
  rw [outcome_visit_eq] at h
  split at h
  · cases h
  · cases h
  · rename_i text hsource
    obtain ⟨entry, hentry, hfound, hstop⟩ := exists_of_visitEntries_deferred h hdeferred
    exact ⟨entry, ⟨occurs_of_source? hsource hentry, hfound⟩, hstop⟩

/-- The same for the queued sources. -/
theorem exists_dangles_of_walk {root : String} {queue : List String}
    {hqueue : ∀ path ∈ queue, path ∈ root :: job.reachable}
    (h : (job.walk root visited pack queue hqueue).outcome = .ok (.unresolved failure))
    (hdeferred : failure.specifier ∈ job.deferred) :
    ∃ path entry, job.Dangles path entry ∧ entry.specifier = failure.specifier ∧
      failure.referrer = some (job.store.url path) := by
  fun_induction walk job root visited pack queue hqueue with
  | case1 => cases h
  | case2 visited pack path rest hqueue hvisited _ ih => exact ih h
  | case3 => cases h
  | case4 visited pack path rest hqueue hnew visit failure' hvisit =>
    cases h
    exact ⟨path, exists_dangles_of_visit hvisit hdeferred⟩
  | case5 visited pack path rest hqueue hnew visit pack' queued hvisit _ ih => exact ih h

/-- Making a pack stops at a specifier that may fail only if it stops at an entry that dangles. -/
theorem exists_dangles_of_pack {entrypoint : String}
    (h : (job.pack entrypoint).outcome = .ok (.unresolved failure)) (hreferrer : failure.referrer.isSome)
    (hdeferred : failure.specifier ∈ job.deferred) :
    ∃ path entry, job.Dangles path entry ∧ entry.specifier = failure.specifier ∧
      failure.referrer = some (job.store.url path) := by
  rw [PackJob.pack] at h
  split at h
  · cases h
  · cases h
    cases hreferrer
  · exact exists_dangles_of_walk h hdeferred

end Stop

/-! ### The faults of a pack -/

section Fault

variable {visited queued : List String} {path : String} {entries : List Entry} {pack : Packed}
  {cause : Fault}

theorem verdict_ne_fault_of_answers (hanswers : job.resolve.Answers) (path : String) (entry : Entry)
    (cause : Fault) : job.verdict path entry ≠ .fault cause := by
  intro h
  obtain ⟨answer, hanswer, -⟩ := hanswers entry (some (job.store.url path)) job.targets
  cases hanswer.symm.trans (verdict_eq_fault_iff.1 h).2

/-- Where there is an answer for every entry, only the store makes visiting entries fail. -/
theorem kind_of_visitEntries (hanswers : job.resolve.Answers)
    (h : (job.visitEntries visited path entries pack queued).outcome = .error cause) :
    cause.kind = .store := by
  induction entries generalizing pack queued with
  | nil => cases h
  | cons entry rest ih =>
    cases hverdict : job.verdict path entry with
    | builtin =>
      rw [outcome_visitEntries_builtin hverdict] at h
      exact ih h
    | fault cause' => exact absurd hverdict (verdict_ne_fault_of_answers hanswers path entry cause')
    | failed failure =>
      by_cases hforgives : Forgives job.deferred entry failure
      · rw [outcome_visitEntries_forgiven hverdict hforgives] at h
        exact ih h
      · rw [outcome_visitEntries_stop hverdict hforgives] at h
        cases h
    | found url =>
      rw [outcome_visitEntries_resolved hverdict] at h
      split at h
      · rename_i hadd
        cases h
        exact Store.kind_of_read (read_of_addFile_error hadd)
      · cases h
      · exact ih h

/-- A visit fails because of the store or because a source is no text. -/
theorem kind_of_visit (hanswers : job.resolve.Answers)
    (h : (job.visit visited path pack).outcome = .error cause) :
    cause.kind = .store ∨ cause.kind = .source := by
  rw [outcome_visit_eq] at h
  split at h
  · rename_i hsource
    cases h
    unfold source? at hsource
    split at hsource
    · rename_i hread
      cases hsource
      exact .inl (Store.kind_of_read hread)
    · cases hsource
    · obtain ⟨reason, rfl⟩ := Source.eq_source_of_text? hsource
      exact .inr rfl
  · cases h
  · exact .inl (kind_of_visitEntries hanswers h)

theorem kind_of_walk (hanswers : job.resolve.Answers) {root : String} {queue : List String}
    {hqueue : ∀ path ∈ queue, path ∈ root :: job.reachable}
    (h : (job.walk root visited pack queue hqueue).outcome = .error cause) :
    cause.kind = .store ∨ cause.kind = .source := by
  fun_induction walk job root visited pack queue hqueue with
  | case1 => cases h
  | case2 visited pack path rest hqueue hvisited _ ih => exact ih h
  | case3 visited pack path rest hqueue hnew visit cause' hvisit =>
    cases h
    exact kind_of_visit hanswers hvisit
  | case4 => cases h
  | case5 visited pack path rest hqueue hnew visit pack' queued hvisit _ ih => exact ih h

/-- Making a pack fails because of the store or because a source is no text. -/
theorem kind_of_pack (hanswers : job.resolve.Answers) {entrypoint : String}
    (h : (job.pack entrypoint).outcome = .error cause) : cause.kind = .store ∨ cause.kind = .source := by
  rw [PackJob.pack] at h
  split at h
  · rename_i hread
    cases h
    exact .inl (Store.kind_of_read hread)
  · cases h
  · exact kind_of_walk hanswers h

end Fault

/-! ### Where an entry dangles -/

section Dangles

variable {visited queued : List String} {path : String} {entries : List Entry} {entry : Entry}
  {pack : Packed} {failure : Unresolved}

theorem outcome_visitEntries_dangling {rest : List Entry} {url : Url} (hfiles : job.Present pack.files)
    (h : job.verdict path entry = .found url) (hread : job.store.read url.pathname = .ok none) :
    (job.visitEntries visited path (entry :: rest) pack queued).outcome =
      .ok (.error ⟨entry.specifier, some (job.store.url path), [url.href]⟩) := by
  rw [outcome_visitEntries_resolved h, hfiles.addFile_eq_none hread]

/-- Visiting entries of which one is resolved to no file stops, at this one or before. -/
theorem exists_stop_of_mem (hs : job.store.Closed) (hanswers : job.resolve.Answers)
    (hfiles : job.Present pack.files) (hentry : entry ∈ entries) {url : Url}
    (hfound : job.verdict path entry = .found url) (hread : job.store.read url.pathname = .ok none) :
    ∃ failure, (job.visitEntries visited path entries pack queued).outcome = .ok (.error failure) ∧
      failure.referrer = some (job.store.url path) := by
  induction entries generalizing pack queued with
  | nil => cases hentry
  | cons first rest ih =>
    rcases List.mem_cons.1 hentry with rfl | hrest
    · exact ⟨_, outcome_visitEntries_dangling hfiles hfound hread, rfl⟩
    · cases hverdict : job.verdict path first with
      | builtin =>
        rw [outcome_visitEntries_builtin hverdict]
        exact ih hfiles hrest
      | fault cause => exact absurd hverdict (verdict_ne_fault_of_answers hanswers path first cause)
      | failed failure =>
        by_cases hforgives : Forgives job.deferred first failure
        · rw [outcome_visitEntries_forgiven hverdict hforgives]
          exact ih hfiles hrest
        · -- The visit stops before it comes to the entry.
          obtain ⟨answer, hanswer, hreferrer⟩ := hanswers first (some (job.store.url path)) job.targets
          cases hanswer.symm.trans (verdict_eq_failed_iff.1 hverdict).2
          exact ⟨failure, outcome_visitEntries_stop hverdict hforgives, hreferrer failure rfl⟩
      | found url' =>
        rw [outcome_visitEntries_resolved hverdict]
        split
        · rename_i cause hadd
          obtain ⟨content?, hcontent⟩ := Store.read_of_closed hs url'.pathname
          cases hcontent.symm.trans (read_of_addFile_error hadd)
        · exact ⟨_, rfl, rfl⟩
        · rename_i files hadd
          exact ih (hfiles.addFile hadd) hrest

theorem exists_source?_of_occurs (h : job.Occurs path entry) :
    ∃ text, job.source? path = .ok (some text) ∧ entry ∈ job.lexer text := by
  obtain ⟨content, text, hread, htext, hentry⟩ := h
  refine ⟨text, ?_, hentry⟩
  rw [source?, hread]
  exact htext

theorem present_firstPack {root : String} {content : Bytes} (h : job.store.read root = .ok (some content)) :
    job.Present (job.firstPack root content).files :=
  present_empty.insert h _

/-- Making a pack stops where the visit of the first source stops. -/
theorem outcome_pack_of_visit {root : String} {content : Bytes} (hroot : Path.normalize root = root)
    (hread : job.store.read root = .ok (some content))
    (hvisit : (job.visit [root] root (job.firstPack root content)).outcome = .ok (.error failure)) :
    (job.pack root).outcome = .ok (.unresolved failure) := by
  rw [PackJob.pack, hroot, hread]
  dsimp only
  rw [walk, dif_neg List.not_mem_nil]
  dsimp only
  split
  · rename_i hcause
    cases hcause.symm.trans hvisit
  · rename_i hfailure
    cases hfailure.symm.trans hvisit
    rfl
  · rename_i hok
    cases hok.symm.trans hvisit

/-- Making a pack from a source with an entry that dangles stops in that source, whatever may fail. -/
theorem exists_stop_of_dangles (hs : job.store.Closed) (hanswers : job.resolve.Answers)
    (hpath : Path.normalize path = path) (h : job.Dangles path entry) :
    ∃ failure, (job.pack path).outcome = .ok (.unresolved failure) ∧
      failure.referrer = some (job.store.url path) := by
  obtain ⟨hoccurs, url, hfound, hnone⟩ := h
  obtain ⟨content, -, hread, -⟩ := id hoccurs
  obtain ⟨text, hsource, hentry⟩ := exists_source?_of_occurs hoccurs
  have hstop : ∃ failure, (job.visitEntries [path] path (job.lexer text) (job.firstPack path content)
      []).outcome = .ok (.error failure) ∧ failure.referrer = some (job.store.url path) :=
    exists_stop_of_mem hs hanswers (present_firstPack hread) hentry hfound hnone
  obtain ⟨failure, hfailure, hreferrer⟩ := hstop
  refine ⟨failure, outcome_pack_of_visit hpath hread ?_, hreferrer⟩
  rw [outcome_visit_eq, hsource]
  exact hfailure

end Dangles

/-! ### Traversals -/

/-- The task that starts at a source with an entry that dangles stops again at what it has put aside. -/
theorem outcomeAt_of_dangles (hs : job.store.Closed) (hanswers : job.resolve.Answers) {path : String}
    {entry : Entry} (hpath : Path.normalize path = path) (h : job.Dangles path entry) (seed : List String) :
    ∃ specifier href, Traversal.outcomeAt job.packer seed path = .error (.repeatedStop specifier href) := by
  obtain ⟨last, hlast, hstep⟩ := Task.exists_step_of_settle job.packer (Task.start path seed)
  have hentrypoint : last.entrypoint = path := hlast
  -- The last attempt stops in the source as every other one does.
  obtain ⟨failure, hstop, hreferrer⟩ := @exists_stop_of_dangles (job.deferring last.deferred) path entry hs
    hanswers hpath h
  have hpack : (job.packer.pack last.entrypoint last.earlier last.deferred).outcome =
      .ok (.unresolved failure) := by
    rw [hentrypoint]
    exact hstop
  change ∃ specifier href, ((Task.start path seed).settle job.packer).outcome = _
  cases houtcome : ((Task.start path seed).settle job.packer).outcome with
  | ok result =>
    rw [houtcome] at hstep
    obtain ⟨pack, hpacked, -⟩ := Task.exists_pack_of_step hstep
    cases hpack.symm.trans hpacked
  | error cause =>
    rw [houtcome] at hstep
    -- Of the ways in which an attempt fails, a stop in a source leaves only one.
    rcases Task.cause_of_step hstep with hcause | ⟨specifier, candidates, hmissing, -⟩ |
      ⟨specifier, referrer, candidates, -, -, rfl⟩
    · cases hpack.symm.trans hcause
    · cases hpack.symm.trans hmissing
      cases hreferrer
    · exact ⟨specifier, referrer.href, rfl⟩

/-- A task stops again at what it has put aside only where an entry dangles. -/
theorem exists_dangles_of_outcomeAt (hanswers : job.resolve.Answers) {seed : List String}
    {entrypoint specifier href : String}
    (h : Traversal.outcomeAt job.packer seed entrypoint = .error (.repeatedStop specifier href)) :
    ∃ path entry, job.Dangles path entry ∧ entry.specifier = specifier ∧
      (job.store.url path).href = href := by
  obtain ⟨last, -, hstep⟩ := Task.exists_step_of_settle job.packer (Task.start entrypoint seed)
  change _ = (Traversal.outcomeAt job.packer seed entrypoint).map _ at hstep
  rw [h] at hstep
  rcases Task.cause_of_step hstep with hcause | ⟨_, _, -, hcause⟩ |
    ⟨specifier', referrer, candidates, hstop, hdeferred, hcause⟩
  · -- Neither the store nor a source that is no text gives this fault.
    have hkind := @kind_of_pack (job.deferring last.deferred) _ hanswers _ hcause
    rcases hkind with hkind | hkind <;> cases hkind
  · cases hcause
  · cases hcause
    obtain ⟨path, entry, hdangles, hspecifier, hreferrer⟩ :=
      @exists_dangles_of_pack (job.deferring last.deferred) _ _ hstop rfl hdeferred
    exact ⟨path, entry, hdangles, hspecifier, congrArg Url.href (Option.some.inj hreferrer).symm⟩

/-- **Entries that dangle are what makes a traversal stop again at what it has put aside.**  Let a
resolver have an answer for every entry.  Making a pack stops at a specifier that may fail only if an
entry with this specifier dangles; a traversal ends in the fault of such a stop only if an entry dangles;
and where the links of a store do not lead out of it, every traversal that starts at a source with an
entry that dangles ends in that fault. -/
theorem repeatedStop_of_dangles (job : PackJob) (hanswers : job.resolve.Answers) :
    (∀ deferred entrypoint failure,
      ((job.deferring deferred).pack entrypoint).outcome = .ok (.unresolved failure) →
      failure.referrer.isSome → failure.specifier ∈ deferred →
      ∃ path entry, job.Dangles path entry ∧ entry.specifier = failure.specifier ∧
        failure.referrer = some (job.store.url path)) ∧
    (∀ texts seed specifier href,
      (Traversal.run job.packer texts seed).outcome = .error (.repeatedStop specifier href) →
      ∃ path entry, job.Dangles path entry ∧ entry.specifier = specifier ∧
        (job.store.url path).href = href) ∧
    (job.store.Closed → ∀ path entry, Path.normalize path = path → job.Dangles path entry →
      ∀ seed, ∃ specifier href,
        (Traversal.run job.packer [path] seed).outcome = .error (.repeatedStop specifier href)) := by
  refine ⟨?_, ?_, ?_⟩
  · intro deferred entrypoint failure hpack hreferrer hdeferred
    exact @exists_dangles_of_pack (job.deferring deferred) _ _ hpack hreferrer hdeferred
  · intro texts seed specifier href hrun
    obtain ⟨entrypoint, -, houtcome⟩ := Traversal.exists_of_run_eq_error hrun
    exact exists_dangles_of_outcomeAt hanswers houtcome
  · intro hs path entry hpath hdangles seed
    obtain ⟨specifier, href, houtcome⟩ := outcomeAt_of_dangles hs hanswers hpath hdangles seed
    refine ⟨specifier, href, ?_⟩
    rw [Traversal.outcome_run_singleton, hpath, houtcome]
    rfl

/-! ### A program whose entry dangles -/

/-- A program that asks for one file, and a resolver that answers with a file that is not there. -/
def dangling (deferred : List String) : PackJob where
  store := ((MemoryStore.empty "drive").put "/index.js" (Utf8.encode "require(\"x\")".toList)).toStore
  resolve := fun _ _ _ => pure (.resolved ⟨"drive:///gone.js", "/gone.js"⟩)
  lexer := Source.entries
  builtins := []
  targets := []
  deferred := deferred

section Dangling

variable (deferred : List String)

theorem answers_dangling : (dangling deferred).resolve.Answers := by
  intro entry referrer targets
  refine ⟨_, rfl, ?_⟩
  intro failure h
  cases h

theorem closed_dangling : (dangling deferred).store.Closed := MemoryStore.closed_toStore _

theorem read_index_dangling : (dangling deferred).store.read "/index.js" =
    .ok (some (Utf8.encode "require(\"x\")".toList)) := by
  rw [Store.read_eq (closed_dangling deferred)]
  exact congrArg Except.ok (MemoryStore.content?_put_empty _ _ _ _)

theorem read_gone_dangling : (dangling deferred).store.read "/gone.js" = .ok none := by
  have hne : Path.normalize "/index.js" ≠ Path.normalize "/gone.js" := by decide +kernel
  rw [Store.read_eq (closed_dangling deferred)]
  exact congrArg Except.ok ((MemoryStore.content?_put_empty _ _ _ _).trans (if_neg hne))

theorem source?_dangling :
    (dangling deferred).source? "/index.js" = .ok (some "require(\"x\")") := by
  rw [source?, read_index_dangling]
  rfl

theorem lexer_dangling :
    (dangling deferred).lexer "require(\"x\")" = [⟨"x", false, false, true, false⟩] := by
  change Source.entries _ = _
  decide +kernel

theorem verdict_dangling : (dangling deferred).verdict "/index.js" ⟨"x", false, false, true, false⟩ =
    .found ⟨"drive:///gone.js", "/gone.js"⟩ :=
  verdict_eq_found_iff.2 ⟨List.not_mem_nil, rfl⟩

end Dangling

theorem normalize_index : Path.normalize "/index.js" = "/index.js" := by decide +kernel

/-- Its entry dangles, so a traversal of it ends in the fault although nothing was put aside. -/
theorem repeatedStop_dangling : (dangling []).resolve.Answers ∧ (dangling []).store.Closed ∧
    (dangling []).Dangles "/index.js" ⟨"x", false, false, true, false⟩ ∧
    ∃ specifier href, (Traversal.run (dangling []).packer ["/index.js"] []).outcome =
      .error (.repeatedStop specifier href) := by
  have hmem : ⟨"x", false, false, true, false⟩ ∈ (dangling []).lexer "require(\"x\")" := by
    rw [lexer_dangling]
    exact List.mem_singleton_self _
  have hdangles : (dangling []).Dangles "/index.js" ⟨"x", false, false, true, false⟩ :=
    ⟨occurs_of_source? (source?_dangling []) hmem, _, verdict_dangling [], read_gone_dangling []⟩
  exact ⟨answers_dangling [], closed_dangling [], hdangles,
    (repeatedStop_of_dangles (dangling []) (answers_dangling [])).2.2 (closed_dangling [])
      "/index.js" _ normalize_index hdangles []⟩

/-- Making its pack stops at the specifier although it was put aside, and so a traversal of it ends in a
fault. -/
theorem pack_dangling : (dangling ["x"]).resolve.Answers ∧
    ((dangling ["x"]).pack "/index.js").outcome = .ok (.unresolved
      ⟨"x", some ((dangling ["x"]).store.url "/index.js"), ["drive:///gone.js"]⟩) ∧
    "x" ∈ (dangling ["x"]).deferred ∧
    (Traversal.run (dangling []).packer ["/index.js"] ["x"]).outcome =
      .error (.repeatedStop "x" ((dangling ["x"]).store.url "/index.js").href) := by
  have hvisit : ((dangling ["x"]).visit ["/index.js"] "/index.js" ((dangling ["x"]).firstPack
      "/index.js" (Utf8.encode "require(\"x\")".toList))).outcome =
      .ok (.error ⟨"x", some ((dangling ["x"]).store.url "/index.js"), ["drive:///gone.js"]⟩) := by
    rw [outcome_visit_eq, source?_dangling]
    dsimp only
    rw [lexer_dangling]
    exact outcome_visitEntries_dangling (present_firstPack (read_index_dangling _))
      (verdict_dangling _) (read_gone_dangling _)
  have hpack := outcome_pack_of_visit normalize_index (read_index_dangling _) hvisit
  refine ⟨answers_dangling _, hpack, List.mem_singleton_self _, ?_⟩
  have hstep : ((Task.start "/index.js" ["x"]).step (dangling []).packer).outcome =
      .error (.repeatedStop "x" ((dangling ["x"]).store.url "/index.js").href) := by
    have hattempt : ((dangling []).packer.pack (Task.start "/index.js" ["x"]).entrypoint
        (Task.start "/index.js" ["x"]).earlier (Task.start "/index.js" ["x"]).deferred).outcome = _ := hpack
    have hdeferred : "x" ∈ (Task.start "/index.js" ["x"]).deferred := List.mem_singleton_self _
    rw [Task.outcome_step_ok hattempt, Task.handle, if_pos hdeferred]
    rfl
  have houtcome := Task.outcome_settle_of_step hstep
  rw [Traversal.outcome_run_singleton, normalize_index, Traversal.outcomeAt, houtcome]
  rfl

end PackJob

end ModuleReach
