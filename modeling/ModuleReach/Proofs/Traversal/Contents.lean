import ModuleReach.Proofs.Traversal.Union

/-!
# What a report says

A report follows from what the programs load that start with its entrypoints.  Its files are the sources that
are loaded and the files to which their entries lead.  Its skips are under the specifiers of the misses in
these sources, those apart that are put aside from the start.  Its resolutions are those of the entries of
these sources.  How the sources were found, and after how many attempts, leaves no trace but the order.

## Main definitions

* `PackJob.LoadsFrom` — the sources that are loaded by some programs.
* `PackJob.Tells` — the reports that say what some programs load, and nothing else.

## Main results

* `PackJob.tells_merge` — a report on results that tell of some programs tells of all of them.
* `Traversal.tells_of_run` — a traversal reports what the programs load that start with its entrypoints.
-/

namespace ModuleReach

/-- What is known of a result, as a report. -/
def EntrypointResult.report (result : EntrypointResult) : Report :=
  ⟨result.files, result.skips, result.resolutions⟩

namespace PackJob

variable {job : PackJob}

/-- Whether a source is loaded by one of the programs that start with some files. -/
def LoadsFrom (job : PackJob) (roots : List String) (path : String) : Prop :=
  ∃ root ∈ roots, job.Loads root path

/-- A report that says what the programs load which start with some files, and nothing else. -/
structure Tells (job : PackJob) (seed roots : List String) (report : Report) : Prop where
  /-- The files are the loaded sources and those to which their entries lead. -/
  files : ∀ q, q ∈ report.files ↔ job.LoadsFrom roots q ∨
    ∃ path, job.LoadsFrom roots path ∧ ∃ link ∈ job.sourceLinks path, link.2.pathname = q
  /-- A specifier is skipped if a miss in a loaded source is reported under it that is not forgiven. -/
  skips : ∀ specifier, specifier ∈ report.skips.map (·.specifier) ↔
    ∃ path, job.LoadsFrom roots path ∧
      ∃ miss ∈ job.sourceMisses path, ¬ miss.Forgiven seed ∧ miss.skip.specifier = specifier
  /-- The resolutions are those of the loaded sources with links. -/
  resolutions : ∀ href links, report.resolutions.get? href = some links ↔
    ∃ path, job.LoadsFrom roots path ∧ (job.store.url path).href = href ∧ job.sourceLinks path ≠ [] ∧
      links = InsertionMap.ofList (pairsOf (job.sourceLinks path))

theorem loadsFrom_singleton {root path : String} : job.LoadsFrom [root] path ↔ job.Loads root path := by
  simp [LoadsFrom]

/-- What a program loads or has as a leaf is a loaded source, or the links of one lead to it. -/
theorem loads_or_loadsLeaf_iff {root q : String} :
    job.Loads root q ∨ job.LoadsLeaf root q ↔
      job.Loads root q ∨ ∃ path, job.Loads root path ∧ ∃ link ∈ job.sourceLinks path, link.2.pathname = q := by
  constructor
  · rintro (hload | ⟨path, entry, url, hload, hentry, hbuiltin, hanswer, -, rfl⟩)
    · exact .inl hload
    · exact .inr ⟨path, hload, (entry, url), mem_sourceLinks.2 ⟨hentry, hbuiltin, hanswer⟩, rfl⟩
  · rintro (hload | ⟨path, hload, ⟨entry, url⟩, hlink, rfl⟩)
    · exact .inl hload
    · obtain ⟨hentry, hbuiltin, hanswer⟩ := mem_sourceLinks.1 hlink
      cases hleaf : entry.isLeaf with
      | false => exact .inl (hload.of_link hlink hleaf)
      | true => exact .inr ⟨path, entry, url, hload, hentry, hbuiltin, hanswer, hleaf, rfl⟩

/-- A report on results which tell of some programs each, and which agree on what they share, tells of all
these programs. -/
theorem tells_merge {seed : List String} {results : List EntrypointResult} {roots : List String}
    (hagrees : ∀ r ∈ results, ∀ r' ∈ results, r.Agrees r')
    (hresults : ∀ r ∈ results, ∃ root ∈ roots, job.Tells seed [root] r.report)
    (hroots : ∀ root ∈ roots, ∃ r ∈ results, job.Tells seed [root] r.report) :
    job.Tells seed roots (Report.merge results) := by
  -- What each result says of the sources of its own program, the results together say of all sources.
  have hcollect : ∀ {states : EntrypointResult → Prop} {holds : String → Prop},
      (∀ r root, job.Tells seed [root] r.report → (states r ↔ ∃ path, job.Loads root path ∧ holds path)) →
      ((∃ r ∈ results, states r) ↔ ∃ path, job.LoadsFrom roots path ∧ holds path) := by
    intro states holds hstates
    constructor
    · rintro ⟨r, hr, h⟩
      obtain ⟨root, hroot, htells⟩ := hresults r hr
      obtain ⟨path, hload, hpath⟩ := (hstates r root htells).1 h
      exact ⟨path, ⟨root, hroot, hload⟩, hpath⟩
    · rintro ⟨path, ⟨root, hroot, hload⟩, hpath⟩
      obtain ⟨r, hr, htells⟩ := hroots root hroot
      exact ⟨r, hr, (hstates r root htells).2 ⟨path, hload, hpath⟩⟩
  constructor
  · intro q
    have hfiles : ∀ (r : EntrypointResult) root, job.Tells seed [root] r.report → (q ∈ r.files ↔
        ∃ path, job.Loads root path ∧ (path = q ∨ ∃ link ∈ job.sourceLinks path, link.2.pathname = q)) := by
      intro r root htells
      have hmem := htells.files q
      simp only [loadsFrom_singleton] at hmem
      refine hmem.trans ?_
      simp only [and_or_left, exists_or, exists_eq_right]
    rw [Report.merge, Report.mem_mergeFiles, hcollect hfiles]
    simp only [and_or_left, exists_or, exists_eq_right]
  · intro specifier
    have hskips : ∀ (r : EntrypointResult) root, job.Tells seed [root] r.report →
        ((∃ skip ∈ r.skips, skip.specifier = specifier) ↔ ∃ path, job.Loads root path ∧
          ∃ miss ∈ job.sourceMisses path, ¬ miss.Forgiven seed ∧ miss.skip.specifier = specifier) := by
      intro r root htells
      have hmem := htells.skips specifier
      simp only [loadsFrom_singleton, List.mem_map] at hmem
      exact hmem
    rw [← hcollect hskips, Report.merge, List.mem_map]
    simp only [Report.mem_mergeSkips hagrees]
    constructor
    · rintro ⟨skip, ⟨r, hr, hskip⟩, hspecifier⟩
      exact ⟨r, hr, skip, hskip, hspecifier⟩
    · rintro ⟨r, hr, skip, hskip, hspecifier⟩
      exact ⟨skip, ⟨r, hr, hskip⟩, hspecifier⟩
  · intro href links
    rw [Report.merge, Report.get?_mergeResolutions hagrees]
    refine hcollect fun r root htells => ?_
    have hget := htells.resolutions href links
    simp only [loadsFrom_singleton] at hget
    exact hget

end PackJob

namespace Traversal

section Standard

variable {m : MemoryStore} {config : Config} {seed : List String}

/-- The result for an entrypoint says what the program loads that starts with it. -/
theorem tells_of_outcomeAt {entrypoint : String} {result : EntrypointResult}
    (h : outcomeAt (Packer.standard m.toStore config) seed entrypoint = .ok result) :
    (PackJob.standard m.toStore Source.entries config.builtins config.targets []).Tells seed
      [Path.normalize entrypoint] result.report := by
  let job := PackJob.standard m.toStore Source.entries config.builtins config.targets []
  have hs : job.store.Closed := m.closed_toStore
  have hjob : job.Honest := PackJob.honest_standard hs
  -- What may fail at the last attempt does not matter for what is loaded.
  obtain ⟨deferred, pack, hpack, hfiles, hresolutions⟩ := exists_pack_of_outcomeAt job h
  have hloads : ∀ path, (job.deferring deferred).Loads (Path.normalize entrypoint) path ↔
      job.Loads (Path.normalize entrypoint) path :=
    fun path => ⟨fun h => h.deferring [], fun h => h.deferring deferred⟩
  constructor
  · intro q
    have hmem := (PackJob.covers_of_pack (hjob.deferring deferred) hs hpack).mem_files q
    rw [PackJob.loads_or_loadsLeaf_iff] at hmem
    simp only [hloads] at hmem
    simp only [PackJob.loadsFrom_singleton, EntrypointResult.report, hfiles]
    exact hmem
  · intro specifier
    obtain ⟨paths, outcome, hpaths, hall, -, houtcome⟩ := exists_outcomeAt_eq m config entrypoint
    rw [houtcome] at h
    cases outcome with
    | error cause => cases h
    | ok pack =>
      cases h
      simp only [PackJob.loadsFrom_singleton, EntrypointResult.report, Tally.mem_firstMisses_iff, List.mem_flatMap]
      constructor
      · rintro ⟨miss, ⟨path, hpath, hmiss⟩, hreported⟩
        exact ⟨path, hpaths path hpath, miss, hmiss, hreported⟩
      · rintro ⟨path, hload, miss, hmiss, hreported⟩
        exact ⟨miss, ⟨path, hall pack rfl path hload, hmiss⟩, hreported⟩
  · intro href links
    have hget := PackJob.get?_resolutions_of_pack (hjob.deferring deferred) hs hpack href links
    simp only [hloads] at hget
    simp only [PackJob.loadsFrom_singleton, EntrypointResult.report, hresolutions]
    exact hget

/-- A traversal reports what the programs load that start with its entrypoints. -/
theorem tells_of_run {texts : List String} {report : Report}
    (h : (run (Packer.standard m.toStore config) texts seed).outcome = .ok report) :
    (PackJob.standard m.toStore Source.entries config.builtins config.targets []).Tells seed
      (entrypoints texts) report := by
  obtain ⟨results, rfl, hresults⟩ := exists_results_of_run h
  have htells : ∀ entrypoint ∈ entrypoints texts, ∀ result,
      outcomeAt (Packer.standard m.toStore config) seed entrypoint = .ok result →
      (PackJob.standard m.toStore Source.entries config.builtins config.targets []).Tells seed
        [entrypoint] result.report := by
    intro entrypoint hentrypoint result houtcome
    have htells := tells_of_outcomeAt houtcome
    rw [normalize_of_mem_entrypoints hentrypoint] at htells
    exact htells
  refine PackJob.tells_merge ?_ ?_ ?_
  · intro r hr r' hr'
    obtain ⟨entrypoint, -, houtcome⟩ := (hresults r).1 hr
    obtain ⟨entrypoint', -, houtcome'⟩ := (hresults r').1 hr'
    exact (describes_of_outcomeAt houtcome).agrees (describes_of_outcomeAt houtcome')
  · intro r hr
    obtain ⟨entrypoint, hentrypoint, houtcome⟩ := (hresults r).1 hr
    exact ⟨entrypoint, hentrypoint, htells entrypoint hentrypoint r houtcome⟩
  · intro entrypoint hentrypoint
    obtain ⟨result, houtcome⟩ := exists_run_iff.1 ⟨_, h⟩ entrypoint hentrypoint
    exact ⟨result, (hresults result).2 ⟨entrypoint, hentrypoint, houtcome⟩,
      htells entrypoint hentrypoint result houtcome⟩

end Standard

end Traversal

end ModuleReach
