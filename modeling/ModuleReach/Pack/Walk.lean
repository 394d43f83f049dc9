import ModuleReach.Pack.Basic

/-!
# Making a pack

The files of a pack are found by walking from source to source, the one found first before the others.  No source is visited
twice, and since entries lead to finitely many paths, the walk ends.  It stops early at the first entry that fails to
resolve and may not.

## Main definitions

* `PackJob.walk` — the pack that visiting some sources leads to.
* `PackJob.pack` — the pack of the program that starts with a file.

## Main results

* `PackJob.stopsAt_of_pack` — a walk stops only at specifiers at which there can be a reason to stop.
-/

namespace ModuleReach

namespace PackJob

/-- The paths that entries lead to. -/
noncomputable def reachable (job : PackJob) : List String := Classical.choose job.exists_reachable

theorem mem_reachable {job : PackJob} {path : String} (h : job.Reaches path) :
    path ∈ job.reachable :=
  Classical.choose_spec job.exists_reachable path h

/-- The number of given paths that have not been visited. -/
def unvisited (paths visited : List String) : Nat := (paths.filter (· ∉ visited)).length

theorem unvisited_cons_lt {paths visited : List String} {path : String} (h : path ∈ paths)
    (hnew : path ∉ visited) : unvisited paths (path :: visited) < unvisited paths visited := by
  have hsub : paths.filter (· ∉ path :: visited) =
      (paths.filter (· ∉ visited)).filter (· ≠ path) := by
    rw [List.filter_filter]
    congr 1
    funext q
    simp
  unfold unvisited
  rw [hsub, List.length_filter_lt_length_iff_exists]
  exact ⟨path, List.mem_filter.2 ⟨h, by simpa using hnew⟩, by simp⟩

/-- The pack that visiting the queued sources leads to. -/
def walk (job : PackJob) (root : String) (visited : List String) (pack : Packed) :
    (queue : List String) → (∀ path ∈ queue, path ∈ root :: job.reachable) → Run PackOutcome
  | [], _ => pure (.packed pack)
  | path :: rest, hqueue =>
    if _ : path ∈ visited then
      job.walk root visited pack rest fun p hp => hqueue p (List.mem_cons_of_mem _ hp)
    else
      let visit := job.visit (path :: visited) path pack
      match hvisit : visit.outcome with
      | .error fault => ⟨visit.notes, .error fault⟩
      | .ok (.error failure) => ⟨visit.notes, .ok (.unresolved failure)⟩
      | .ok (.ok (pack', queued)) =>
        (job.walk root (path :: visited) pack' (rest ++ queued) fun p hp =>
          (List.mem_append.1 hp).elim (fun h => hqueue p (List.mem_cons_of_mem _ h)) fun h =>
            List.mem_cons_of_mem _ (mem_reachable (reaches_of_visit hvisit h))).noting visit.notes
termination_by queue => (unvisited (root :: job.reachable) visited, queue.length)
decreasing_by
  · exact Prod.Lex.right _ (by simp)
  · exact Prod.Lex.left _ _ (unvisited_cons_lt (hqueue path (by simp)) ‹_›)

theorem start_mem (job : PackJob) (root : String) :
    ∀ path ∈ [root], path ∈ root :: job.reachable := by
  simp

/-- The pack of the program that starts with a file. -/
def pack (job : PackJob) (entrypoint : String) : Run PackOutcome :=
  let root := Path.normalize entrypoint
  match job.store.read root with
  | .error fault => Run.fail fault
  | .ok none => pure (.unresolved ⟨entrypoint, none, [(job.store.url root).href]⟩)
  | .ok (some content) =>
    job.walk root [] ⟨(∅ : InsertionMap _ _).insert root ⟨job.store.url root, content.length⟩, ∅⟩
      [root] (job.start_mem root)

theorem stopsAt_of_walk {job : PackJob} {root : String} {visited : List String} {pack : Packed}
    {queue : List String} {hqueue : ∀ path ∈ queue, path ∈ root :: job.reachable}
    {failure : Unresolved}
    (h : (job.walk root visited pack queue hqueue).outcome = .ok (.unresolved failure)) :
    job.StopsAt failure.specifier := by
  fun_induction walk job root visited pack queue hqueue with
  | case1 => simp at h
  | case2 _ _ _ _ _ _ _ ih => exact ih h
  | case3 => simp at h
  | case4 _ _ _ _ _ _ _ _ hvisit =>
    simp only [Except.ok.injEq, PackOutcome.unresolved.injEq] at h
    exact h ▸ stopsAt_of_visit hvisit
  | case5 _ _ _ _ _ _ _ _ _ _ _ ih => exact ih (by simpa using h)

/-- A walk stops only at specifiers at which there can be a reason to stop, or because its first file is missing. -/
theorem stopsAt_of_pack {job : PackJob} {entrypoint : String} {failure : Unresolved}
    (h : (job.pack entrypoint).outcome = .ok (.unresolved failure))
    (hreferrer : failure.referrer.isSome) : job.StopsAt failure.specifier := by
  unfold pack at h
  simp only at h
  split at h
  · simp at h
  · simp only [Run.outcome_pure, Except.ok.injEq, PackOutcome.unresolved.injEq] at h
    simp [← h] at hreferrer
  · exact stopsAt_of_walk h

end PackJob

end ModuleReach
