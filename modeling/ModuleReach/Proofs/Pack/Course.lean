import ModuleReach.Proofs.Path.Canonical
import ModuleReach.Proofs.Pack.Visit

/-!
# The course of a walk

A walk takes one path after the other from a queue.  A path that was visited before is passed over; any other one is
visited, and the paths that its entries lead to go to the end of the queue.  The walk ends when the queue is empty, or
with the first visit that does not end well.

These rules make a relation between what a walk begins with and its course: the paths that it takes, those that it
visits, and how it ends.  Nothing in the rules says that a walk ends, and a resolver may answer with any paths at all,
with one file under many of them.  But each source is asked for its entries under its canonical URL, so that entries
lead to finitely many paths, and every walk has a course.  A visited path is never visited again, so that the queue is
fed at most once by each source.

## Main definitions

* `PackJob.Course` — the paths that a walk takes and visits, and how it ends.
* `PackJob.Walks`, `PackJob.Makes` — the courses of walks, and of making packs.

## Main results

* `PackJob.Walks.unique`, `PackJob.exists_walks` — a walk has exactly one course, which ends as the walk does.
* `PackJob.Walks.nodup_visited`, `PackJob.Walks.length_taken_le` — no path is visited twice, and no more paths are
  taken than are queued at first or come from entries of visited sources.
* `PackJob.Walks.normalize_eq` — with the standard resolver, only canonical paths are visited.
* `PackJob.exists_course` — all of this for making a pack.
-/

namespace ModuleReach

/-! ### Answers of the standard resolver -/

theorem Resolution.exists_url_of_ofLookup {s : Store} {specifier : String} {referrer : Option Url}
    {l : Lookup} {url : Url} (h : (ofLookup s specifier referrer l).outcome = .ok (.resolved url)) :
    ∃ path, url = s.url path := by
  rw [ofLookup, Run.outcome_bind] at h
  cases hfound : (l []).outcome with
  | error cause =>
    rw [hfound] at h
    cases h
  | ok found =>
    rw [hfound] at h
    obtain ⟨path?, seen⟩ := found
    cases path? with
    | none => cases h
    | some path =>
      cases h
      exact ⟨path, rfl⟩

/-- The standard resolver answers with canonical paths only, in any store. -/
theorem Resolver.normalize_pathname_of_standard {s : Store} {entry : Entry} {referrer : Option Url}
    {targets : List String} {url : Url}
    (h : (standard s entry referrer targets).outcome = .ok (.resolved url)) :
    Path.normalize url.pathname = url.pathname := by
  have hurl : ∃ path, url = s.url path := by
    rw [standard] at h
    split at h
    · cases h
    · rename_i plan _
      rw [Plan.resolve] at h
      split at h
      · rw [Resolution.addon, if_neg Bool.false_ne_true] at h
        exact Resolution.exists_url_of_ofLookup h
      · exact Resolution.exists_url_of_ofLookup h
  obtain ⟨path, rfl⟩ := hurl
  exact Path.normalize_normalize path

namespace PackJob

variable {job : PackJob}

/-! ### What a visit queues -/

section Visit

variable {visited queued queued' : List String} {path : String} {pack pack' : Packed}

theorem length_next_le (visited : List String) (entry : Entry) (url : Url) :
    (next visited entry url).length ≤ 1 := by
  unfold next
  split <;> simp

/-- An entry leads to one path at most. -/
theorem length_le_of_visitEntries {entries : List Entry}
    (h : (job.visitEntries visited path entries pack queued).outcome = .ok (.ok (pack', queued'))) :
    queued'.length ≤ queued.length + entries.length := by
  induction entries generalizing pack queued with
  | nil =>
    cases h
    exact Nat.le_refl _
  | cons entry rest ih =>
    have hskip : ∀ {pack : Packed},
        (job.visitEntries visited path rest pack queued).outcome = .ok (.ok (pack', queued')) →
        queued'.length ≤ queued.length + (entry :: rest).length := by
      intro pack hrest
      exact Nat.le_trans (ih hrest) (Nat.add_le_add_left (Nat.le_succ _) _)
    cases hverdict : job.verdict path entry with
    | builtin =>
      rw [outcome_visitEntries_builtin hverdict] at h
      exact hskip h
    | fault cause =>
      rw [outcome_visitEntries_fault hverdict] at h
      cases h
    | failed failure =>
      by_cases hforgives : Forgives job.deferred entry failure
      · rw [outcome_visitEntries_forgiven hverdict hforgives] at h
        exact hskip h
      · rw [outcome_visitEntries_stop hverdict hforgives] at h
        cases h
    | found url =>
      rw [outcome_visitEntries_resolved hverdict] at h
      split at h
      · cases h
      · cases h
      · have hrest := ih h
        have hnext := length_next_le visited entry url
        rw [List.length_append] at hrest
        rw [List.length_cons]
        omega

/-- A visit queues at most as many paths as the source has entries. -/
theorem length_le_of_visit
    (h : (job.visit visited path pack).outcome = .ok (.ok (pack', queued'))) :
    queued'.length ≤ (job.sourceEntries path).length := by
  rw [outcome_visit_eq] at h
  rw [sourceEntries]
  split at h
  · cases h
  · cases h
    exact Nat.zero_le _
  · rename_i text hsource
    simpa [hsource] using length_le_of_visitEntries h

/-- With the standard resolver, a visit queues canonical paths only. -/
theorem normalize_eq_of_visit {store : Store} (hresolve : job.resolve = Resolver.standard store)
    (h : (job.visit visited path pack).outcome = .ok (.ok (pack', queued'))) :
    ∀ p ∈ queued', Path.normalize p = p := by
  intro p hp
  obtain ⟨source, entry, url, -, hanswer, rfl⟩ := reaches_of_visit h hp
  rw [answer, hresolve] at hanswer
  exact Resolver.normalize_pathname_of_standard hanswer

end Visit

/-! ### Walks -/

/-- The course of a walk. -/
structure Course where
  /-- The paths taken from the queue, in order. -/
  taken : List String
  /-- Those of them that are visited, in order: only here is a source read and asked for its entries. -/
  visited : List String
  /-- How the walk ends. -/
  outcome : Except Fault PackOutcome

/-- The courses of a walk that begins with some paths visited, a pack and a queue. -/
inductive Walks (job : PackJob) : List String → Packed → List String → Course → Prop
  /-- The queue is empty. -/
  | done {visited : List String} {pack : Packed} :
      Walks job visited pack [] ⟨[], [], .ok (.packed pack)⟩
  /-- The path was visited before. -/
  | again {visited rest : List String} {path : String} {pack : Packed} {course : Course} :
      path ∈ visited → Walks job visited pack rest course →
      Walks job visited pack (path :: rest) { course with taken := path :: course.taken }
  /-- The visit ends well. -/
  | visit {visited rest queued : List String} {path : String} {pack pack' : Packed} {course : Course} :
      path ∉ visited → (job.visit (path :: visited) path pack).outcome = .ok (.ok (pack', queued)) →
      Walks job (path :: visited) pack' (rest ++ queued) course →
      Walks job visited pack (path :: rest)
        { course with taken := path :: course.taken, visited := path :: course.visited }
  /-- The visit comes to an entry that is a reason to stop. -/
  | stop {visited rest : List String} {path : String} {pack : Packed} {failure : Unresolved} :
      path ∉ visited → (job.visit (path :: visited) path pack).outcome = .ok (.error failure) →
      Walks job visited pack (path :: rest) ⟨[path], [path], .ok (.unresolved failure)⟩
  /-- The visit ends in a fault. -/
  | fault {visited rest : List String} {path : String} {pack : Packed} {cause : Fault} :
      path ∉ visited → (job.visit (path :: visited) path pack).outcome = .error cause →
      Walks job visited pack (path :: rest) ⟨[path], [path], .error cause⟩

/-- Every walk has a course, which ends as the walk does.  The induction is on the walk, and this is where it counts
that entries lead to finitely many paths. -/
theorem exists_walks (job : PackJob) {root : String} (visited : List String) (pack : Packed)
    {queue : List String} (hqueue : ∀ path ∈ queue, path ∈ root :: job.reachable) :
    ∃ course, job.Walks visited pack queue course ∧
      course.outcome = (job.walk root visited pack queue hqueue).outcome := by
  fun_induction walk job root visited pack queue hqueue with
  | case1 visited pack => exact ⟨_, .done, rfl⟩
  | case2 visited pack path rest hqueue hvisited _ ih =>
    obtain ⟨course, hcourse, houtcome⟩ := ih
    exact ⟨_, .again hvisited hcourse, houtcome⟩
  | case3 visited pack path rest hqueue hnew visit cause hvisit => exact ⟨_, .fault hnew hvisit, rfl⟩
  | case4 visited pack path rest hqueue hnew visit failure hvisit => exact ⟨_, .stop hnew hvisit, rfl⟩
  | case5 visited pack path rest hqueue hnew visit pack' queued hvisit _ ih =>
    obtain ⟨course, hcourse, houtcome⟩ := ih
    exact ⟨_, .visit hnew hvisit hcourse, houtcome⟩

namespace Walks

variable {visited queue : List String} {pack : Packed} {course other : Course}

/-- A walk has only one course. -/
theorem unique (h : job.Walks visited pack queue course) (hother : job.Walks visited pack queue other) :
    other = course := by
  induction h generalizing other with
  | done =>
    cases hother
    rfl
  | again hvisited _ ih =>
    cases hother with
    | again _ hrest => rw [ih hrest]
    | visit hnew => exact absurd hvisited hnew
    | stop hnew => exact absurd hvisited hnew
    | fault hnew => exact absurd hvisited hnew
  | visit hnew hvisit _ ih =>
    cases hother with
    | again hvisited => exact absurd hvisited hnew
    | visit _ hvisit' hrest =>
      cases hvisit.symm.trans hvisit'
      rw [ih hrest]
    | stop _ hvisit' => cases hvisit.symm.trans hvisit'
    | fault _ hvisit' => cases hvisit.symm.trans hvisit'
  | stop hnew hvisit =>
    cases hother with
    | again hvisited => exact absurd hvisited hnew
    | visit _ hvisit' => cases hvisit.symm.trans hvisit'
    | stop _ hvisit' =>
      cases hvisit.symm.trans hvisit'
      rfl
    | fault _ hvisit' => cases hvisit.symm.trans hvisit'
  | fault hnew hvisit =>
    cases hother with
    | again hvisited => exact absurd hvisited hnew
    | visit _ hvisit' => cases hvisit.symm.trans hvisit'
    | stop _ hvisit' => cases hvisit.symm.trans hvisit'
    | fault _ hvisit' =>
      cases hvisit.symm.trans hvisit'
      rfl

/-- The visited paths are those that are taken and were not visited before, each at its first time. -/
theorem visited_eq (h : job.Walks visited pack queue course) :
    course.visited = (course.taken.filter (· ∉ visited)).eraseDups := by
  induction h with
  | done => rfl
  | again hvisited _ ih => simpa [hvisited] using ih
  | @visit visited _ _ path _ _ course hnew _ _ ih =>
    have hfilter : course.taken.filter (· ∉ path :: visited) =
        (course.taken.filter (· ∉ visited)).filter fun p => !p == path := by
      rw [List.filter_filter]
      congr 1
      funext p
      by_cases hp : p = path <;> simp [hp]
    rw [List.filter_cons_of_pos (by simpa using hnew), List.eraseDups_cons, ← hfilter, ← ih]
  | stop hnew _ => simp [hnew, List.eraseDups_cons]
  | fault hnew _ => simp [hnew, List.eraseDups_cons]

/-- No path is visited twice. -/
theorem nodup_visited (h : job.Walks visited pack queue course) : course.visited.Nodup := by
  rw [h.visited_eq]
  exact nodup_eraseDups _

/-- What is taken was queued at first or was queued by a visit. -/
theorem length_taken_le (h : job.Walks visited pack queue course) :
    course.taken.length ≤ queue.length + (course.visited.flatMap job.sourceEntries).length := by
  induction h with
  | done => exact Nat.zero_le _
  | again _ _ ih =>
    rw [List.length_cons, List.length_cons]
    dsimp only
    omega
  | visit _ hvisit _ ih =>
    have hqueued := length_le_of_visit hvisit
    rw [List.length_append] at ih
    rw [List.length_cons, List.length_cons, List.flatMap_cons, List.length_append]
    omega
  | stop =>
    rw [List.length_singleton, List.length_cons]
    omega
  | fault =>
    rw [List.length_singleton, List.length_cons]
    omega

/-- With the standard resolver, a walk that begins with canonical paths visits canonical paths only. -/
theorem normalize_eq {store : Store} (hresolve : job.resolve = Resolver.standard store)
    (h : job.Walks visited pack queue course) (hqueue : ∀ path ∈ queue, Path.normalize path = path) :
    ∀ path ∈ course.visited, Path.normalize path = path := by
  induction h with
  | done => exact List.forall_mem_nil _
  | again _ _ ih => exact ih (List.forall_mem_cons.1 hqueue).2
  | visit _ hvisit _ ih =>
    obtain ⟨hpath, hrest⟩ := List.forall_mem_cons.1 hqueue
    refine List.forall_mem_cons.2 ⟨hpath, ih ?_⟩
    exact List.forall_mem_append.2 ⟨hrest, normalize_eq_of_visit hresolve hvisit⟩
  | stop => simpa using (List.forall_mem_cons.1 hqueue).1
  | fault => simpa using (List.forall_mem_cons.1 hqueue).1

end Walks

/-! ### Making a pack -/

/-- The courses of making the pack of the program that starts with a file. -/
inductive Makes (job : PackJob) (entrypoint : String) : Course → Prop
  /-- The store refuses to read the file. -/
  | refused {cause : Fault} : job.store.read (Path.normalize entrypoint) = .error cause →
      Makes job entrypoint ⟨[], [], .error cause⟩
  /-- There is no such file. -/
  | missing : job.store.read (Path.normalize entrypoint) = .ok none →
      Makes job entrypoint ⟨[], [],
        .ok (.unresolved ⟨entrypoint, none, [(job.store.url (Path.normalize entrypoint)).href]⟩)⟩
  /-- The file is the first to visit. -/
  | walks {content : Bytes} {course : Course} :
      job.store.read (Path.normalize entrypoint) = .ok (some content) →
      job.Walks [] (job.firstPack (Path.normalize entrypoint) content) [Path.normalize entrypoint]
        course →
      Makes job entrypoint course

theorem exists_makes (job : PackJob) (entrypoint : String) :
    ∃ course, job.Makes entrypoint course ∧ course.outcome = (job.pack entrypoint).outcome := by
  rw [pack]
  cases hread : job.store.read (Path.normalize entrypoint) with
  | error cause => exact ⟨_, .refused hread, rfl⟩
  | ok content? =>
    cases content? with
    | none => exact ⟨_, .missing hread, rfl⟩
    | some content =>
      obtain ⟨course, hcourse, houtcome⟩ := job.exists_walks []
        (job.firstPack (Path.normalize entrypoint) content) (job.start_mem (Path.normalize entrypoint))
      exact ⟨course, .walks hread hcourse, houtcome⟩

namespace Makes

variable {entrypoint : String} {course other : Course}

theorem unique (h : job.Makes entrypoint course) (hother : job.Makes entrypoint other) :
    other = course := by
  cases h with
  | refused hread =>
    cases hother with
    | refused hread' =>
      cases hread.symm.trans hread'
      rfl
    | missing hread' => cases hread.symm.trans hread'
    | walks hread' _ => cases hread.symm.trans hread'
  | missing hread =>
    cases hother with
    | refused hread' => cases hread.symm.trans hread'
    | missing _ => rfl
    | walks hread' _ => cases hread.symm.trans hread'
  | walks hread hwalk =>
    cases hother with
    | refused hread' => cases hread.symm.trans hread'
    | missing hread' => cases hread.symm.trans hread'
    | walks hread' hwalk' =>
      cases hread.symm.trans hread'
      exact hwalk.unique hwalk'

theorem visited_eq (h : job.Makes entrypoint course) : course.visited = course.taken.eraseDups := by
  cases h with
  | refused => rfl
  | missing => rfl
  | walks _ hwalk =>
    rw [hwalk.visited_eq, List.filter_eq_self.2]
    simp

theorem nodup_visited (h : job.Makes entrypoint course) : course.visited.Nodup := by
  rw [h.visited_eq]
  exact nodup_eraseDups _

theorem length_taken_le (h : job.Makes entrypoint course) :
    course.taken.length ≤ 1 + (course.visited.flatMap job.sourceEntries).length := by
  cases h with
  | refused => exact Nat.zero_le _
  | missing => exact Nat.zero_le _
  | walks _ hwalk => exact hwalk.length_taken_le

/-- With the standard resolver, no file is visited under two of its names. -/
theorem nodup_normalize {store : Store} (hresolve : job.resolve = Resolver.standard store)
    (h : job.Makes entrypoint course) : (course.visited.map Path.normalize).Nodup := by
  cases h with
  | refused => exact List.nodup_nil
  | missing => exact List.nodup_nil
  | walks _ hwalk =>
    have hfirst : ∀ path ∈ [Path.normalize entrypoint], Path.normalize path = path := by
      intro path hpath
      rw [List.mem_singleton.1 hpath, Path.normalize_normalize]
    have hvisited := hwalk.normalize_eq hresolve hfirst
    rw [List.map_congr_left hvisited, List.map_id']
    exact hwalk.nodup_visited

end Makes

/-- Making a pack ends, whatever the lexer finds and whatever the resolver answers: there is exactly one course of it,
and it ends as the pack does.  It visits the paths that it takes, each at its first time and none twice; it takes at
most one path more than there are entries in the sources that it visits.  With the standard resolver no file is visited
under two of its names. -/
theorem exists_course (job : PackJob) (entrypoint : String) :
    ∃ course, (∀ other, job.Makes entrypoint other ↔ other = course) ∧
      course.outcome = (job.pack entrypoint).outcome ∧
      course.visited = course.taken.eraseDups ∧ course.visited.Nodup ∧
      course.taken.length ≤ 1 + (course.visited.flatMap job.sourceEntries).length ∧
      ∀ store, job.resolve = Resolver.standard store →
        (course.visited.map Path.normalize).Nodup := by
  obtain ⟨course, hcourse, houtcome⟩ := job.exists_makes entrypoint
  have hiff : ∀ other, job.Makes entrypoint other ↔ other = course := by
    intro other
    constructor
    · exact hcourse.unique
    · rintro rfl
      exact hcourse
  exact ⟨course, hiff, houtcome, hcourse.visited_eq, hcourse.nodup_visited, hcourse.length_taken_le,
    fun _ hresolve => hcourse.nodup_normalize hresolve⟩

end PackJob

end ModuleReach
