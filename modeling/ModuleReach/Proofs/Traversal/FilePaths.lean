import ModuleReach.Proofs.Pack.Course
import ModuleReach.Proofs.Traversal.Dangling
import ModuleReach.Proofs.Traversal.Union

/-!
# The paths in a report

The standard resolver answers with canonical paths only, whatever its store gives away.  So each file that is added to a
pack is added under a canonical path, and a report names canonical paths, each of them once.

## Main definitions

* `Packed.Canonical` — the packs whose files are under canonical paths.

## Main results

* `PackJob.canonical_of_visitEntries`, `PackJob.canonical_of_pack` — each entry keeps a pack canonical, and so does a
  whole walk.
* `Traversal.normalize_of_mem_files`, `Traversal.nodup_files` — a report names canonical paths, each once.
-/

namespace ModuleReach

/-- No backslash is in a canonical path. -/
theorem Path.backslash_not_mem_normalize (path : String) : '\\' ∉ (normalize path).toList := by
  rw [normalize, String.toList_ofList]
  exact backslash_not_mem_render fun _ => mem_canonical

/-- Whether the files of a pack are under canonical paths. -/
def Packed.Canonical (pack : Packed) : Prop := ∀ path ∈ pack.files.keys, Path.normalize path = path

namespace PackJob

variable {job : PackJob} {store : Store}

section Step

variable {visited queued queued' : List String} {path : String} {pack pack' : Packed}

/-- A file under a canonical path does no harm. -/
theorem canonical_of_addFile {url : Url} {files : InsertionMap String PackedFile} (hpack : pack.Canonical)
    (hurl : Path.normalize url.pathname = url.pathname) (h : job.addFile pack.files url = .ok (some files)) :
    ∀ path ∈ files.keys, Path.normalize path = path := by
  rcases job.addFile_cases pack.files url with ⟨-, hadd⟩ | ⟨_, -, hadd⟩ | ⟨-, hadd⟩ | ⟨content, -, hadd⟩
  · cases h.symm.trans hadd
    exact hpack
  · cases h.symm.trans hadd
  · cases h.symm.trans hadd
  · cases h.symm.trans hadd
    intro path hpath
    rw [InsertionMap.keys_insert] at hpath
    split at hpath
    · exact hpack path hpath
    · rcases List.mem_append.1 hpath with hpath | hpath
      · exact hpack path hpath
      · rw [List.mem_singleton.1 hpath, hurl]

/-- Visiting entries with the standard resolver adds files under canonical paths. -/
theorem canonical_of_visitEntries (hresolve : job.resolve = Resolver.standard store) {entries : List Entry}
    (hpack : pack.Canonical)
    (h : (job.visitEntries visited path entries pack queued).outcome = .ok (.ok (pack', queued'))) :
    pack'.Canonical := by
  induction entries generalizing pack queued with
  | nil =>
    cases h
    exact hpack
  | cons entry rest ih =>
    cases hverdict : job.verdict path entry with
    | builtin =>
      rw [outcome_visitEntries_builtin hverdict] at h
      exact ih hpack h
    | fault cause =>
      rw [outcome_visitEntries_fault hverdict] at h
      cases h
    | failed failure =>
      by_cases hforgives : Forgives job.deferred entry failure
      · rw [outcome_visitEntries_forgiven hverdict hforgives] at h
        exact ih hpack h
      · rw [outcome_visitEntries_stop hverdict hforgives] at h
        cases h
    | found url =>
      rw [outcome_visitEntries_resolved hverdict] at h
      split at h
      · cases h
      · cases h
      · rename_i files hadd
        obtain ⟨-, hanswer⟩ := verdict_eq_found_iff.1 hverdict
        rw [answer, hresolve] at hanswer
        exact ih (canonical_of_addFile hpack (Resolver.normalize_pathname_of_standard hanswer) hadd) h

/-- The same for a source. -/
theorem canonical_of_visit (hresolve : job.resolve = Resolver.standard store) (hpack : pack.Canonical)
    (h : (job.visit visited path pack).outcome = .ok (.ok (pack', queued))) : pack'.Canonical := by
  rw [outcome_visit_eq] at h
  split at h
  · cases h
  · cases h
    exact hpack
  · exact canonical_of_visitEntries hresolve hpack h

end Step

/-- A walk with the standard resolver keeps the files under canonical paths. -/
theorem canonical_of_walk (hresolve : job.resolve = Resolver.standard store) {root : String} {visited queue : List String}
    {pack pack' : Packed} {hqueue : ∀ path ∈ queue, path ∈ root :: job.reachable} (hpack : pack.Canonical)
    (h : (job.walk root visited pack queue hqueue).outcome = .ok (.packed pack')) : pack'.Canonical := by
  fun_induction walk job root visited pack queue hqueue with
  | case1 visited pack =>
    cases h
    exact hpack
  | case2 visited pack path rest hqueue hvisited _ ih => exact ih hpack h
  | case3 => cases h
  | case4 => cases h
  | case5 visited pack path rest hqueue hnew visit pack' queued hvisit _ ih =>
    exact ih (canonical_of_visit hresolve hpack hvisit) h

/-- The files of a pack that is made with the standard resolver are under canonical paths. -/
theorem canonical_of_pack (hresolve : job.resolve = Resolver.standard store) {entrypoint : String} {pack : Packed}
    (h : (job.pack entrypoint).outcome = .ok (.packed pack)) : pack.Canonical := by
  rw [PackJob.pack] at h
  split at h
  · cases h
  · cases h
  · rename_i content _
    have hfirst : (job.firstPack (Path.normalize entrypoint) content).Canonical := by
      intro path hpath
      have hroot : path = Path.normalize entrypoint := by simpa [firstPack, InsertionMap.keys_insert] using hpath
      rw [hroot, Path.normalize_normalize]
    exact canonical_of_walk hresolve hfirst h

end PackJob

namespace Traversal

variable {store : Store} {config : Config} {texts seed : List String} {report : Report}

/-- A report names canonical paths. -/
theorem normalize_of_mem_files (h : (run (Packer.standard store config) texts seed).outcome = .ok report) :
    ∀ path ∈ report.files, Path.normalize path = path := by
  intro path hpath
  obtain ⟨results, rfl, hresults⟩ := exists_results_of_run h
  obtain ⟨result, hresult, hpath⟩ := Report.mem_mergeFiles.1 hpath
  obtain ⟨entrypoint, -, houtcome⟩ := (hresults result).1 hresult
  let job := PackJob.standard store Source.entries config.builtins config.targets []
  obtain ⟨deferred, pack, hpack, hfiles, -⟩ := exists_pack_of_outcomeAt job houtcome
  rw [hfiles] at hpath
  have hresolve : (job.deferring deferred).resolve = Resolver.standard store := rfl
  exact PackJob.canonical_of_pack hresolve hpack path hpath

/-- A report names no path twice. -/
theorem nodup_files {packer : Packer} (h : (run packer texts seed).outcome = .ok report) : report.files.Nodup := by
  obtain ⟨results, rfl, -⟩ := exists_results_of_run h
  exact nodup_eraseDups _

/-- No backslash is in a path that a report names. -/
theorem backslash_not_mem_of_mem_files (h : (run (Packer.standard store config) texts seed).outcome = .ok report)
    {path : String} (hpath : path ∈ report.files) : '\\' ∉ path.toList := by
  rw [← normalize_of_mem_files h path hpath]
  exact Path.backslash_not_mem_normalize path

end Traversal

end ModuleReach
