import ModuleReach.Proofs.Traversal.Deferral
import ModuleReach.Proofs.Traversal.Merging

/-!
# Reports on several entrypoints

Two entrypoints may lead to the same file by different ways, with different specifiers put aside by then.
Still, what is reported of the file is the same: it follows from the file and from what was put aside at
the start.  So the results for several entrypoints agree on what they share, and to put them together
loses nothing.  The report on them is the union of the reports on each one, and their order, repeats and
spellings do not matter.

## Main definitions

* `EntrypointResult.Agrees` — the results that agree on what they share.
* `Report.IsUnion` — the reports that are the union of others.
* `PackJob.Describes` — the results that follow from the files.

## Main results

* `Report.isUnion_merge` — a report on results that agree is their union.
* `Traversal.describes_of_outcomeAt` — the results of the standard resolver follow from the files.
* `Traversal.run_union` — what comes of several entrypoints.
-/

namespace ModuleReach

/-! ### Results that agree -/

/-- Results that agree on what they share: the skip of a specifier in a file, and what a file resolves to.
-/
structure EntrypointResult.Agrees (r r' : EntrypointResult) : Prop where
  skips : ∀ s ∈ r.skips, ∀ t ∈ r'.skips, s.key = t.key → s = t
  resolutions : ∀ href links links', r.resolutions.get? href = some links →
    r'.resolutions.get? href = some links' → links = links'

namespace Report

/-- A report that is the union of others, which agree on the resolutions of the files that they share. -/
structure IsUnion (whole : Report) (parts : List Report) : Prop where
  files : ∀ path, path ∈ whole.files ↔ ∃ part ∈ parts, path ∈ part.files
  skips : ∀ skip, skip ∈ whole.skips ↔ ∃ part ∈ parts, skip ∈ part.skips
  agree : ∀ part ∈ parts, ∀ other ∈ parts, ∀ href links links',
    part.resolutions.get? href = some links → other.resolutions.get? href = some links' → links = links'
  resolutions : ∀ href links, whole.resolutions.get? href = some links ↔
    ∃ part ∈ parts, part.resolutions.get? href = some links

/-- Reports of the same files, skips and resolutions, in whatever order. -/
structure Same (report other : Report) : Prop where
  files : ∀ path, path ∈ report.files ↔ path ∈ other.files
  skips : ∀ skip, skip ∈ report.skips ↔ skip ∈ other.skips
  resolutions : ∀ href, report.resolutions.get? href = other.resolutions.get? href

/-- The order of the parts of a union does not matter. -/
theorem IsUnion.of_mem_iff {whole : Report} {parts parts' : List Report} (h : whole.IsUnion parts)
    (hparts : ∀ part, part ∈ parts' ↔ part ∈ parts) : whole.IsUnion parts' := by
  constructor
  · simpa only [hparts] using h.files
  · simpa only [hparts] using h.skips
  · simpa only [hparts] using h.agree
  · simpa only [hparts] using h.resolutions

/-- Unions of the same reports are the same. -/
theorem IsUnion.same {whole whole' : Report} {parts : List Report} (h : whole.IsUnion parts)
    (h' : whole'.IsUnion parts) : whole.Same whole' where
  files path := (h.files path).trans (h'.files path).symm
  skips skip := (h.skips skip).trans (h'.skips skip).symm
  resolutions href := Option.ext fun links => (h.resolutions href links).trans (h'.resolutions href links).symm

section Merge

variable {results : List EntrypointResult}

theorem mem_mergeFiles {path : String} :
    path ∈ mergeFiles results ↔ ∃ r ∈ results, path ∈ r.files := by
  rw [mergeFiles, List.mem_eraseDups, List.mem_flatMap]

variable (hagrees : ∀ r ∈ results, ∀ r' ∈ results, r.Agrees r')

include hagrees

/-- Where results agree, no skip is lost. -/
theorem mem_mergeSkips {skip : Skip} :
    skip ∈ mergeSkips results ↔ ∃ r ∈ results, skip ∈ r.skips := by
  rw [mergeSkips, mem_eraseDupsBy_iff, ← List.mem_flatMap]
  constructor
  · exact List.mem_of_find?_eq_some
  · intro hskip
    have hsome : ((results.flatMap (·.skips)).find? (·.key == skip.key)).isSome :=
      List.find?_isSome.2 ⟨skip, hskip, beq_self_eq_true _⟩
    obtain ⟨first, hfirst⟩ := Option.isSome_iff_exists.1 hsome
    -- The first skip under this key is the skip itself.
    obtain ⟨r, hr, hmem⟩ := List.mem_flatMap.1 hskip
    obtain ⟨r', hr', hmem'⟩ := List.mem_flatMap.1 (List.mem_of_find?_eq_some hfirst)
    have hkey : first.key = skip.key := by simpa using List.find?_some hfirst
    rw [hfirst, (hagrees r' hr' r hr).skips first hmem' skip hmem hkey]

/-- Where results agree, no resolution is lost. -/
theorem get?_mergeResolutions {href : String} {links : InsertionMap String String} :
    (mergeResolutions results).get? href = some links ↔
      ∃ r ∈ results, r.resolutions.get? href = some links := by
  rw [get?_mergeResolutions_eq]
  constructor
  · intro h
    obtain ⟨r, hr, hlinks⟩ := List.exists_of_findSome?_eq_some h
    exact ⟨r, List.mem_reverse.1 hr, hlinks⟩
  · rintro ⟨r, hr, hlinks⟩
    have hsome : (results.reverse.findSome? (·.resolutions.get? href)).isSome = true :=
      List.findSome?_isSome_iff.2 ⟨r, List.mem_reverse.2 hr, by rw [hlinks, Option.isSome_some]⟩
    obtain ⟨links', hlinks'⟩ := Option.isSome_iff_exists.1 hsome
    -- Whichever result it was taken from, it is the same.
    obtain ⟨r', hr', hget⟩ := List.exists_of_findSome?_eq_some hlinks'
    rw [hlinks', (hagrees r' (List.mem_reverse.1 hr') r hr).resolutions href links' links hget hlinks]

/-- A report on results that agree is the union of the reports on each of them. -/
theorem isUnion_merge : (merge results).IsUnion (results.map fun r => merge [r]) := by
  -- A report on one result has what the result has.
  have hself : ∀ r ∈ results, ∀ s ∈ [r], ∀ t ∈ [r], s.Agrees t := by
    intro r hr s hs t ht
    rw [List.mem_singleton.1 hs, List.mem_singleton.1 ht]
    exact hagrees r hr r hr
  have hresolutions : ∀ r ∈ results, ∀ href links, (merge [r]).resolutions.get? href = some links ↔
      r.resolutions.get? href = some links := by
    intro r hr href links
    rw [merge, get?_mergeResolutions (hself r hr)]
    simp
  constructor
  · intro path
    simp only [List.mem_map, exists_exists_and_eq_and]
    refine mem_mergeFiles.trans (exists_congr fun r => and_congr_right fun hr => ?_)
    rw [merge, mem_mergeFiles]
    simp
  · intro skip
    simp only [List.mem_map, exists_exists_and_eq_and]
    refine (mem_mergeSkips hagrees).trans (exists_congr fun r => and_congr_right fun hr => ?_)
    rw [merge, mem_mergeSkips (hself r hr)]
    simp
  · intro part hpart other hother href links links' hlinks hlinks'
    obtain ⟨r, hr, rfl⟩ := List.mem_map.1 hpart
    obtain ⟨r', hr', rfl⟩ := List.mem_map.1 hother
    exact (hagrees r hr r' hr').resolutions href links links' ((hresolutions r hr _ _).1 hlinks)
      ((hresolutions r' hr' _ _).1 hlinks')
  · intro href links
    simp only [List.mem_map, exists_exists_and_eq_and]
    exact (get?_mergeResolutions hagrees).trans
      (exists_congr fun r => and_congr_right fun hr => (hresolutions r hr href links).symm)

end Merge

end Report

/-! ### Results that follow from the files -/

namespace PackJob

variable {job : PackJob}

/-- What is skipped in a source under a specifier, if some specifiers are put aside from the start. -/
def firstMiss? (job : PackJob) (seed : List String) (path specifier : String) : Option Skip :=
  ((job.sourceMisses path).find? fun miss => ¬ miss.Forgiven seed ∧ miss.skip.specifier = specifier).map
    Miss.skip

/-- A result whose skips and resolutions follow from the files in which they stand and from what was put
aside from the start. -/
structure Describes (job : PackJob) (seed : List String) (result : EntrypointResult) : Prop where
  skips : ∀ skip ∈ result.skips, ∃ path, Path.normalize path = path ∧
    skip.referrer = job.store.url path ∧ job.firstMiss? seed path skip.specifier = some skip
  resolutions : ∀ href links, result.resolutions.get? href = some links →
    ∃ path, Path.normalize path = path ∧ (job.store.url path).href = href ∧
      links = InsertionMap.ofList (pairsOf (job.sourceLinks path))

/-- Results that follow from the same files agree. -/
theorem Describes.agrees {seed : List String} {r r' : EntrypointResult} (h : job.Describes seed r)
    (h' : job.Describes seed r') : r.Agrees r' where
  skips := by
    intro s hs t ht hkey
    obtain ⟨path, hpath, hreferrer, hfirst⟩ := h.skips s hs
    obtain ⟨path', hpath', hreferrer', hfirst'⟩ := h'.skips t ht
    have hspecifier : s.specifier = t.specifier := congrArg Prod.fst hkey
    have hhref : s.referrer.href = t.referrer.href := congrArg Prod.snd hkey
    rw [hreferrer, hreferrer'] at hhref
    rw [eq_of_href_url hpath hpath' hhref, hspecifier, hfirst'] at hfirst
    exact (Option.some.inj hfirst).symm
  resolutions := by
    intro href links links' hlinks hlinks'
    obtain ⟨path, hpath, hhref, rfl⟩ := h.resolutions href links hlinks
    obtain ⟨path', hpath', hhref', rfl⟩ := h'.resolutions href links' hlinks'
    rw [eq_of_href_url hpath hpath' (hhref.trans hhref'.symm)]

/-- A skip of the first misses in some sources is the first one in its source. -/
theorem exists_of_mem_firstMisses {seed paths : List String} {skip : Skip}
    (h : skip ∈ Tally.firstMisses seed (paths.flatMap job.sourceMisses)) :
    ∃ path ∈ paths, skip.referrer = job.store.url path ∧
      job.firstMiss? seed path skip.specifier = some skip := by
  rw [Tally.firstMisses, mem_eraseDupsBy_iff, List.find?_map, List.find?_filter, List.find?_flatMap,
    Option.map_eq_some_iff] at h
  obtain ⟨miss, hmiss, rfl⟩ := h
  -- The first one in all the sources is the first one in the source where it stands.
  obtain ⟨path, hpath, hfirst⟩ := List.exists_of_findSome?_eq_some hmiss
  have hreferrer := (mem_missesIn.1 (List.mem_of_find?_eq_some hfirst)).2.2
  refine ⟨path, hpath, hreferrer, ?_⟩
  rw [firstMiss?, Option.map_eq_some_iff]
  refine ⟨miss, ?_, rfl⟩
  simpa using hfirst

end PackJob

namespace Traversal

/-- The results of the standard resolver follow from the files. -/
theorem describes_of_outcomeAt {m : MemoryStore} {config : Config} {seed : List String} {entrypoint : String}
    {result : EntrypointResult}
    (h : outcomeAt (Packer.standard m.toStore config) seed entrypoint = .ok result) :
    (PackJob.standard m.toStore Source.entries config.builtins config.targets []).Describes seed result := by
  let job := PackJob.standard m.toStore Source.entries config.builtins config.targets []
  have hs : job.store.Closed := m.closed_toStore
  have hjob : job.Honest := PackJob.honest_standard hs
  have hroot := Path.normalize_normalize entrypoint
  constructor
  · intro skip hskip
    obtain ⟨paths, outcome, hpaths, -, -, houtcome⟩ := exists_outcomeAt_eq m config entrypoint
    rw [houtcome] at h
    cases outcome with
    | error cause => cases h
    | ok pack =>
      cases h
      obtain ⟨path, hpath, hfirst⟩ := PackJob.exists_of_mem_firstMisses hskip
      exact ⟨path, (hpaths path hpath).normalize_eq hjob hroot, hfirst⟩
  · intro href links hlinks
    -- What is put aside at the last attempt does not matter for the links of a source.
    obtain ⟨deferred, pack, hpack, -, hresolutions⟩ := exists_pack_of_outcomeAt job h
    rw [hresolutions, PackJob.get?_resolutions_of_pack (hjob.deferring deferred) hs hpack] at hlinks
    obtain ⟨path, hload, hhref, -, heq⟩ := hlinks
    exact ⟨path, hload.normalize_eq (hjob.deferring deferred) hroot, hhref, heq⟩

/-- A part of the report on some entrypoints is the report on one of them. -/
theorem mem_parts_iff {packer : Packer} {texts seed : List String} {parts : List Report}
    (h : texts.map (fun text => (run packer [text] seed).outcome) = parts.map .ok) (part : Report) :
    part ∈ parts ↔ ∃ entrypoint ∈ entrypoints texts, ∃ result,
      outcomeAt packer seed entrypoint = .ok result ∧ part = Report.merge [result] := by
  have hone : ∀ text, (run packer [text] seed).outcome = .ok part ↔ ∃ result,
      outcomeAt packer seed (Path.normalize text) = .ok result ∧ part = Report.merge [result] := by
    intro text
    rw [outcome_run_singleton]
    cases outcomeAt packer seed (Path.normalize text) with
    | error cause => simp [Except.map]
    | ok result => simp [Except.map, eq_comm]
  rw [mem_iff_of_map_eq h]
  simp only [hone, mem_entrypoints, exists_exists_and_eq_and]

/-- The report on some entrypoints is the union of the reports on each text that names one. -/
theorem isUnion_of_run {m : MemoryStore} {config : Config} {texts seed : List String} {report : Report}
    {parts : List Report} (h : (run (Packer.standard m.toStore config) texts seed).outcome = .ok report)
    (hparts : texts.map (fun text => (run (Packer.standard m.toStore config) [text] seed).outcome) =
      parts.map .ok) : report.IsUnion parts := by
  obtain ⟨results, rfl, hresults⟩ := exists_results_of_run h
  have hagrees : ∀ r ∈ results, ∀ r' ∈ results, r.Agrees r' := by
    intro r hr r' hr'
    obtain ⟨entrypoint, -, houtcome⟩ := (hresults r).1 hr
    obtain ⟨entrypoint', -, houtcome'⟩ := (hresults r').1 hr'
    exact (describes_of_outcomeAt houtcome).agrees (describes_of_outcomeAt houtcome')
  -- The texts may name an entrypoint more than once, but the parts are the reports on the results.
  refine (Report.isUnion_merge hagrees).of_mem_iff fun part => ?_
  rw [mem_parts_iff hparts, List.mem_map]
  constructor
  · rintro ⟨entrypoint, hentrypoint, result, houtcome, rfl⟩
    exact ⟨result, (hresults result).2 ⟨entrypoint, hentrypoint, houtcome⟩, rfl⟩
  · rintro ⟨result, hresult, rfl⟩
    obtain ⟨entrypoint, hentrypoint, houtcome⟩ := (hresults result).1 hresult
    exact ⟨entrypoint, hentrypoint, result, houtcome, rfl⟩

/-- A traversal ends well exactly if those from each of its entrypoints do. -/
theorem exists_run_iff_forall {packer : Packer} {texts seed : List String} :
    (∃ report, (run packer texts seed).outcome = .ok report) ↔
      ∀ text ∈ texts, ∃ part, (run packer [text] seed).outcome = .ok part := by
  simp only [exists_run_iff, mem_entrypoints, forall_exists_index, and_imp, forall_apply_eq_imp_iff₂,
    List.mem_singleton, forall_eq, forall_eq']

/-- **A report is the union of the reports on its entrypoints.**  For a store in memory and the standard
resolver, whatever is put aside from the start: a traversal ends well exactly if the traversals from each
of its entrypoints do; then its files, skips and resolutions are theirs, and these agree on the files that
they share; and texts that name the same entrypoints, in whatever order, how often and in whatever
spelling, give the same files, skips and resolutions. -/
theorem run_union (m : MemoryStore) (config : Config) (seed texts : List String) :
    let outcome := fun texts => (run (Packer.standard m.toStore config) texts seed).outcome
    ((∃ report, outcome texts = .ok report) ↔ ∀ text ∈ texts, ∃ part, outcome [text] = .ok part) ∧
    (∀ report, outcome texts = .ok report →
      ∃ parts, texts.map (fun text => outcome [text]) = parts.map .ok ∧ report.IsUnion parts) ∧
    ∀ texts', (∀ path, path ∈ entrypoints texts ↔ path ∈ entrypoints texts') →
      ((∃ report, outcome texts = .ok report) ↔ ∃ report, outcome texts' = .ok report) ∧
      ∀ report report', outcome texts = .ok report → outcome texts' = .ok report' → report.Same report' := by
  intro outcome
  have hparts : ∀ texts report, outcome texts = .ok report →
      ∃ parts, texts.map (fun text => outcome [text]) = parts.map .ok ∧ report.IsUnion parts := by
    intro texts report hreport
    obtain ⟨parts, hvalues⟩ := exists_mapM_iff.2 (exists_run_iff_forall.1 ⟨report, hreport⟩)
    have hmap := mapM_eq_ok_iff.1 hvalues
    exact ⟨parts, hmap, isUnion_of_run hreport hmap⟩
  refine ⟨exists_run_iff_forall, hparts texts, fun texts' hsame => ⟨?_, ?_⟩⟩
  · simp only [outcome, exists_run_iff, hsame]
  · intro report report' hreport hreport'
    obtain ⟨parts, hmap, hunion⟩ := hparts texts report hreport
    obtain ⟨parts', hmap', hunion'⟩ := hparts texts' report' hreport'
    -- Both are unions of the reports on the same entrypoints.
    refine hunion.same (hunion'.of_mem_iff fun part => ?_)
    simp only [mem_parts_iff hmap, mem_parts_iff hmap', hsame]

end Traversal

end ModuleReach
