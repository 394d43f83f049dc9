import ModuleReach.Proofs.Store.Filled
import ModuleReach.Proofs.Traversal.Contents
import ModuleReach.Proofs.Traversal.Failure

/-!
# Specifiers that belong to the runtime

To give more specifiers to the runtime only prunes what is found.  Fewer entries are followed, so fewer
sources are loaded; that may change the order in which files are met, but it brings no file, no skipped
specifier and no resolution about that was not there before, and nothing in which a traversal could fail.
A source that is still loaded keeps the resolutions of its other specifiers.

No specifier of the runtime is looked for.  Still one skip may bear its name: that of an addon without a
specifier, which is reported under `.`.

## Main definitions

* `InsertionMap.filterKeys` — the part of a map at some keys.
* `Config.withBuiltins`, `PackJob.withBuiltins` — other specifiers that belong to the runtime.
* `Report.Prunes` — the reports that are others with some specifiers pruned.

## Main results

* `InsertionMap.filterKeys_ofList` — leaving out keys before or after writing is the same.
* `PackJob.Loads.of_withBuiltins`, `PackJob.sourceLinks_withBuiltins`, `PackJob.mem_sourceMisses_withBuiltins` —
  what is loaded, followed and missed when more belongs to the runtime.
* `Traversal.run_pruned` — what comes of a traversal when more belongs to the runtime.
-/

namespace ModuleReach

/-! ### Maps without some keys -/

namespace InsertionMap

variable {κ α : Type}

/-- The part of a map at some keys. -/
def filterKeys (p : κ → Bool) (m : InsertionMap κ α) : InsertionMap κ α where
  entries := m.entries.filter fun e => p e.1
  nodup := m.nodup.sublist (List.filter_sublist.map _)

theorem mem_keys_filterKeys {p : κ → Bool} {m : InsertionMap κ α} {key : κ} :
    key ∈ (m.filterKeys p).keys ↔ key ∈ m.keys ∧ p key = true := by
  simp only [keys, filterKeys, List.mem_map, List.mem_filter]
  constructor
  · rintro ⟨e, ⟨he, hp⟩, rfl⟩
    exact ⟨⟨e, he, rfl⟩, hp⟩
  · rintro ⟨⟨e, he, rfl⟩, hp⟩
    exact ⟨e, ⟨he, hp⟩, rfl⟩

variable [DecidableEq κ]

/-- A write at a key that is left out leaves nothing behind, and other writes stay. -/
theorem filter_write (p : κ → Bool) (key : κ) (value : α) (entries : List (κ × α)) :
    (write key value entries).filter (fun e => p e.1) =
      if p key then write key value (entries.filter fun e => p e.1) else entries.filter fun e => p e.1 := by
  induction entries with
  | nil => by_cases hp : p key = true <;> simp [hp]
  | cons e rest ih =>
    obtain ⟨k, v⟩ := e
    rw [write]
    by_cases hk : k = key
    · subst hk
      by_cases hp : p k = true <;> simp [hp, write]
    · rw [if_neg hk, List.filter_cons, List.filter_cons, ih]
      by_cases hp : p k = true
      · rw [if_pos hp, if_pos hp]
        split
        · rw [write, if_neg hk]
        · rfl
      · rw [if_neg hp, if_neg hp]

/-- Leaving out keys before or after writing a list of pairs is the same. -/
theorem filterKeys_ofList (p : κ → Bool) (pairs : List (κ × α)) :
    (ofList pairs).filterKeys p = ofList (pairs.filter fun e => p e.1) := by
  -- The map that is written to changes along the way, so the statement is for any map.
  have hwrite : ∀ (pairs : List (κ × α)) (m : InsertionMap κ α),
      (pairs.foldl (fun m e => m.insert e.1 e.2) m).filterKeys p =
        (pairs.filter fun e => p e.1).foldl (fun m e => m.insert e.1 e.2) (m.filterKeys p) := by
    intro pairs
    induction pairs with
    | nil => exact fun m => rfl
    | cons e rest ih =>
      intro m
      rw [List.foldl_cons, ih]
      have hinsert : ((m.insert e.1 e.2).filterKeys p).entries =
          if p e.1 then write e.1 e.2 (m.filterKeys p).entries else (m.filterKeys p).entries :=
        filter_write p e.1 e.2 m.entries
      by_cases hp : p e.1 = true
      · rw [if_pos hp] at hinsert
        rw [List.filter_cons, if_pos hp, List.foldl_cons]
        congr 1
        exact ext hinsert
      · rw [if_neg hp] at hinsert
        rw [List.filter_cons, if_neg hp]
        congr 1
        exact ext hinsert
  exact hwrite pairs ∅

/-- Writing a list of pairs leaves a map without entries only if there are no pairs. -/
theorem entries_ofList_eq_nil_iff {pairs : List (κ × α)} : (ofList pairs).entries = [] ↔ pairs = [] := by
  constructor
  · intro h
    cases pairs using List.reverseRecOn with
    | nil => rfl
    | append_singleton pairs e =>
      -- What is written last can be read.
      have hget : (ofList (pairs ++ [e])).get? e.1 = some e.2 := by
        rw [ofList, List.foldl_append, List.foldl_cons, List.foldl_nil, get?_insert, if_pos rfl]
      rw [get?, h] at hget
      cases hget
  · rintro rfl
    rfl

omit [DecidableEq κ] in
/-- A part of a map without entries has no entries. -/
theorem filter_map_filterKeys (p : κ → Bool) (m : InsertionMap κ α) :
    (((some m).filter (·.entries ≠ [])).map (·.filterKeys p)).filter (·.entries ≠ []) =
      (some (m.filterKeys p)).filter (·.entries ≠ []) := by
  by_cases hm : m.entries = []
  · simp [Option.filter, filterKeys, hm]
  · simp [Option.filter, hm]

end InsertionMap

/-! ### Jobs with more for the runtime -/

/-- The configuration with other specifiers that belong to the runtime. -/
def Config.withBuiltins (config : Config) (builtins : List String) : Config := { config with builtins }

namespace PackJob

/-- The job with other specifiers that belong to the runtime. -/
def withBuiltins (job : PackJob) (builtins : List String) : PackJob := { job with builtins }

variable {job : PackJob} {builtins : List String}

section More

variable (hsub : job.builtins ⊆ builtins)

include hsub

/-- A program loads no more if more belongs to the runtime. -/
theorem Loads.of_withBuiltins {root path : String} (h : (job.withBuiltins builtins).Loads root path) :
    job.Loads root path := by
  induction h with
  | root => exact .root
  | step _ hentry hbuiltin hanswer hleaf ih =>
    exact .step ih hentry (fun hmem => hbuiltin (hsub hmem)) hanswer hleaf

/-- A program that can be loaded can be loaded if more belongs to the runtime. -/
theorem Loadable.withBuiltins {root : String} (h : job.Loadable root) :
    (job.withBuiltins builtins).Loadable root :=
  ⟨h.1, fun path reason hload hunreadable => h.2 path reason (hload.of_withBuiltins hsub) hunreadable⟩

/-- An entry has the same verdict as before, unless it belongs to the runtime now. -/
theorem verdict_withBuiltins (path : String) (entry : Entry) :
    (job.withBuiltins builtins).verdict path entry =
      if entry.specifier ∈ builtins then .builtin else job.verdict path entry := by
  by_cases hmem : entry.specifier ∈ builtins
  · rw [if_pos hmem]
    exact verdict_eq_builtin_iff.2 hmem
  · have hold : entry.specifier ∉ job.builtins := fun h => hmem (hsub h)
    have hnew : entry.specifier ∉ (job.withBuiltins builtins).builtins := hmem
    rw [if_neg hmem, verdict, verdict, if_neg hnew, if_neg hold]
    rfl

/-- An honest job stays honest if more belongs to the runtime. -/
theorem Honest.withBuiltins (hjob : job.Honest) : (job.withBuiltins builtins).Honest := by
  constructor
  · intro path entry url h
    rw [verdict_withBuiltins hsub] at h
    split at h
    · cases h
    · exact hjob.finds h
  · intro path entry failure h
    rw [verdict_withBuiltins hsub] at h
    split at h
    · cases h
    · exact hjob.names h

/-- Of the links of a source those stay that do not belong to the runtime now. -/
theorem sourceLinks_withBuiltins (path : String) :
    (job.withBuiltins builtins).sourceLinks path =
      (job.sourceLinks path).filter fun link => link.1.specifier ∉ builtins := by
  have hleads : ∀ entries, (job.withBuiltins builtins).leads path entries =
      (job.leads path entries).filter fun link => link.1.specifier ∉ builtins := by
    intro entries
    rw [leads, leads, List.filter_filterMap]
    refine List.filterMap_congr fun entry _ => ?_
    rw [verdict_withBuiltins hsub]
    by_cases hmem : entry.specifier ∈ builtins
    · rw [if_pos hmem]
      cases job.verdict path entry <;> simp [Option.filter, hmem]
    · rw [if_neg hmem]
      cases job.verdict path entry <;> simp [Option.filter, hmem]
  exact hleads _

/-- Of the misses in a source those stay that do not belong to the runtime now. -/
theorem mem_sourceMisses_withBuiltins {path : String} {miss : Miss} :
    miss ∈ (job.withBuiltins builtins).sourceMisses path ↔
      miss ∈ job.sourceMisses path ∧ miss.entry.specifier ∉ builtins := by
  have hentries : (job.withBuiltins builtins).sourceEntries path = job.sourceEntries path := rfl
  have hurl : (job.withBuiltins builtins).store.url path = job.store.url path := rfl
  rw [sourceMisses, sourceMisses, mem_missesIn, mem_missesIn, verdict_withBuiltins hsub, hentries, hurl]
  by_cases hmem : miss.entry.specifier ∈ builtins
  · simp [hmem]
  · simp [hmem]

end More

/-- The resolutions of a source, if there are any, are those from before at the specifiers that do not belong to the
runtime now. -/
theorem ofList_pairsOf_withBuiltins (hsub : job.builtins ⊆ builtins) (path : String) :
    InsertionMap.ofList (pairsOf ((job.withBuiltins builtins).sourceLinks path)) =
      (InsertionMap.ofList (pairsOf (job.sourceLinks path))).filterKeys (· ∉ builtins) := by
  rw [InsertionMap.filterKeys_ofList, sourceLinks_withBuiltins hsub, pairsOf, pairsOf, List.filter_map]
  rfl

end PackJob

/-! ### Reports -/

/-- A report is another one from which some specifiers are pruned, where some sources are still loaded, which are
given by their URLs. -/
structure Report.Prunes (pruned : Report) (builtins : List String) (loaded : String → Prop) (report : Report) :
    Prop where
  /-- No file is new. -/
  files : pruned.files ⊆ report.files
  /-- No specifier is skipped that was not before. -/
  skips : pruned.skips.map (·.specifier) ⊆ report.skips.map (·.specifier)
  /-- A source that is still loaded has the same resolutions in the same order, but for the pruned specifiers. -/
  kept : ∀ href, loaded href → pruned.resolutions.get? href =
    ((report.resolutions.get? href).map (·.filterKeys (· ∉ builtins))).filter (·.entries ≠ [])
  /-- Any other source has none. -/
  gone : ∀ href, ¬ loaded href → pruned.resolutions.get? href = none
  /-- No pruned specifier is resolved. -/
  unresolved : ∀ href links, pruned.resolutions.get? href = some links →
    ∀ specifier ∈ links.keys, specifier ∉ builtins
  /-- No pruned specifier is skipped, unless it is the one that stands for an addon without a specifier. -/
  unskipped : ∀ skip ∈ pruned.skips, skip.specifier ∈ builtins → skip.specifier = "."

namespace PackJob

variable {job : PackJob} {builtins seed roots : List String} {report pruned : Report}

/-- The resolutions of a loaded source, if it has links. -/
theorem Tells.get?_resolutions (h : job.Tells seed roots report) (hjob : job.Honest)
    (hroots : ∀ root ∈ roots, Path.normalize root = root) {path : String} (hload : job.LoadsFrom roots path) :
    report.resolutions.get? (job.store.url path).href =
      (some (InsertionMap.ofList (pairsOf (job.sourceLinks path)))).filter (·.entries ≠ []) := by
  have hcanonical : ∀ {path}, job.LoadsFrom roots path → Path.normalize path = path := by
    rintro path ⟨root, hroot, hload⟩
    exact hload.normalize_eq hjob (hroots root hroot)
  refine Option.ext fun links => ?_
  rw [h.resolutions, Option.filter_eq_some_iff, Option.some.injEq]
  have hne : ∀ {links : List (Entry × Url)}, (InsertionMap.ofList (pairsOf links)).entries ≠ [] ↔ links ≠ [] := by
    intro links
    rw [ne_eq, InsertionMap.entries_ofList_eq_nil_iff, pairsOf, List.map_eq_nil_iff]
  constructor
  · -- No other loaded source has the same URL.
    rintro ⟨path', hload', hhref, hlinks, rfl⟩
    rw [eq_of_href_url (hcanonical hload') (hcanonical hload) hhref] at hlinks ⊢
    exact ⟨rfl, by simpa using hne.2 hlinks⟩
  · rintro ⟨rfl, hlinks⟩
    exact ⟨path, hload, rfl, hne.1 (by simpa using hlinks), rfl⟩

/-- If more belongs to the runtime, what a report tells is pruned. -/
theorem Tells.prunes (hsub : job.builtins ⊆ builtins) (hjob : job.Honest)
    (hroots : ∀ root ∈ roots, Path.normalize root = root)
    (hspecifier : ∀ path, ∀ miss ∈ job.sourceMisses path, miss.failure.specifier = Plan.specifierOf miss.entry)
    (hreport : job.Tells seed roots report) (hpruned : (job.withBuiltins builtins).Tells seed roots pruned) :
    pruned.Prunes builtins
      (fun href => ∃ path, (job.withBuiltins builtins).LoadsFrom roots path ∧ (job.store.url path).href = href)
      report := by
  have hloads : ∀ {path}, (job.withBuiltins builtins).LoadsFrom roots path → job.LoadsFrom roots path := by
    rintro path ⟨root, hroot, hload⟩
    exact ⟨root, hroot, hload.of_withBuiltins hsub⟩
  constructor
  · intro q hq
    refine (hreport.files q).2 ?_
    rcases (hpruned.files q).1 hq with hload | ⟨path, hload, link, hlink, hpath⟩
    · exact .inl (hloads hload)
    · rw [sourceLinks_withBuiltins hsub] at hlink
      exact .inr ⟨path, hloads hload, link, (List.mem_filter.1 hlink).1, hpath⟩
  · intro specifier hskip
    obtain ⟨path, hload, miss, hmiss, hreported⟩ := (hpruned.skips specifier).1 hskip
    have hold := (mem_sourceMisses_withBuiltins hsub).1 hmiss
    exact (hreport.skips specifier).2 ⟨path, hloads hload, miss, hold.1, hreported⟩
  · rintro href ⟨path, hload, rfl⟩
    have hold := hreport.get?_resolutions hjob hroots (hloads hload)
    have hnew := hpruned.get?_resolutions (hjob.withBuiltins hsub) hroots hload
    rw [ofList_pairsOf_withBuiltins hsub] at hnew
    rw [hold]
    refine hnew.trans ?_
    rw [InsertionMap.filter_map_filterKeys]
  · intro href hgone
    rw [Option.eq_none_iff_forall_ne_some]
    intro links hlinks
    obtain ⟨path, hload, hhref, -⟩ := (hpruned.resolutions href links).1 hlinks
    exact hgone ⟨path, hload, hhref⟩
  · intro href links hlinks specifier hmem
    obtain ⟨path, hload, -, -, rfl⟩ := (hpruned.resolutions href links).1 hlinks
    rw [ofList_pairsOf_withBuiltins hsub, InsertionMap.mem_keys_filterKeys] at hmem
    simpa using hmem.2
  · intro skip hskip hbuiltin
    obtain ⟨path, hload, miss, hmiss, -, hreported⟩ := (hpruned.skips _).1 (List.mem_map_of_mem hskip)
    obtain ⟨hold, hlooked⟩ := (mem_sourceMisses_withBuiltins hsub).1 hmiss
    -- The specifier that was looked for is not that of the entry.
    have hreported : Plan.specifierOf miss.entry = skip.specifier := by
      rw [← hspecifier path miss hold]
      exact hreported
    unfold Plan.specifierOf at hreported
    split at hreported
    · exact hreported.symm
    · rw [hreported] at hlooked
      exact absurd hbuiltin hlooked

/-- A program of one file which is a text can be loaded. -/
theorem loadable_put_empty {scheme path text : String} {content : Bytes} {lexer : Lexer}
    {builtins targets deferred : List String} (htext : Utf8.decode (Utf8.dropMark content) = .ok text.toList) :
    (standard ((MemoryStore.empty scheme).put path content).toStore lexer builtins targets deferred).Loadable
      path := by
  refine ⟨MemoryStore.has_put _ _ _, ?_⟩
  rintro q reason - ⟨-, found, hfound, hdecode⟩
  change ((MemoryStore.empty scheme).put path content).toStore.content? q = some found at hfound
  rw [MemoryStore.content?_put_empty] at hfound
  split at hfound
  · cases hfound
    rw [Source.decode, htext] at hdecode
    cases hdecode
  · cases hfound

end PackJob

namespace Traversal

/-- **More for the runtime only prunes.**  For a store in memory and the standard resolver, whatever is put aside from
the start: where a traversal ends well, so does the one to which more specifiers belong to the runtime, and its report
is that of the first with these specifiers pruned. -/
theorem run_pruned (m : MemoryStore) (config : Config) {builtins : List String}
    (hsub : config.builtins ⊆ builtins) (texts seed : List String) {report : Report}
    (h : (run (Packer.standard m.toStore config) texts seed).outcome = .ok report) :
    let job := PackJob.standard m.toStore Source.entries builtins config.targets []
    ∃ pruned,
      (run (Packer.standard m.toStore (config.withBuiltins builtins)) texts seed).outcome = .ok pruned ∧
      pruned.Prunes builtins
        (fun href => ∃ path, job.LoadsFrom (entrypoints texts) path ∧ (job.store.url path).href = href)
        report := by
  intro job
  let old := PackJob.standard m.toStore Source.entries config.builtins config.targets []
  have hs : m.toStore.Closed := m.closed_toStore
  -- Each program can still be loaded, so each task ends well.
  have hends : ∃ pruned,
      (run (Packer.standard m.toStore (config.withBuiltins builtins)) texts seed).outcome = .ok pruned := by
    rw [exists_run_iff]
    intro entrypoint hentrypoint
    have hcan := normalize_of_mem_entrypoints hentrypoint
    have hloadable := (loadable_iff hs config seed hcan).2 (exists_run_iff.1 ⟨report, h⟩ entrypoint hentrypoint)
    exact (loadable_iff hs (config.withBuiltins builtins) seed hcan).1 (hloadable.withBuiltins hsub)
  obtain ⟨pruned, hpruned⟩ := hends
  have hspecifier : ∀ path, ∀ miss ∈ old.sourceMisses path, miss.failure.specifier = Plan.specifierOf miss.entry :=
    fun path miss hmiss => PackJob.specifier_sourceMisses hs config.targets_valid hmiss
  have hold : old.Tells seed (entrypoints texts) report := tells_of_run h
  have hnew : (old.withBuiltins builtins).Tells seed (entrypoints texts) pruned := tells_of_run hpruned
  have hprunes := hold.prunes hsub (PackJob.honest_standard hs)
    (fun _ hentrypoint => normalize_of_mem_entrypoints hentrypoint) hspecifier hnew
  exact ⟨pruned, hpruned, hprunes⟩

/-- For instance, a program that asks for a package which is not there, and which belongs to the runtime then. -/
theorem run_pruned_missing :
    let m := (MemoryStore.empty "drive").put "/index.js" (Utf8.encode "require(\"fs\")".toList)
    let config := Config.standard.withBuiltins []
    let job := PackJob.standard m.toStore Source.entries ["fs"] config.targets []
    config.builtins ⊆ ["fs"] ∧ ∃ report,
      (run (Packer.standard m.toStore config) ["/index.js"] []).outcome = .ok report ∧ ∃ pruned,
        (run (Packer.standard m.toStore (config.withBuiltins ["fs"])) ["/index.js"] []).outcome = .ok pruned ∧
        pruned.Prunes ["fs"]
          (fun href => ∃ path, job.LoadsFrom (entrypoints ["/index.js"]) path ∧ (job.store.url path).href = href)
          report := by
  intro m config job
  have hsub : config.builtins ⊆ ["fs"] := List.nil_subset _
  have hcan : Path.normalize "/index.js" = "/index.js" := by decide +kernel
  have htext : Utf8.decode (Utf8.dropMark (Utf8.encode "require(\"fs\")".toList)) = .ok "require(\"fs\")".toList :=
    rfl
  have hloadable : (PackJob.standard m.toStore Source.entries config.builtins config.targets []).Loadable
      "/index.js" := PackJob.loadable_put_empty htext
  have hends : ∃ report, (run (Packer.standard m.toStore config) ["/index.js"] []).outcome = .ok report := by
    rw [exists_run_iff, entrypoints_singleton, hcan]
    intro entrypoint hentrypoint
    rw [List.mem_singleton.1 hentrypoint]
    exact (loadable_iff m.closed_toStore config [] hcan).1 hloadable
  obtain ⟨report, hreport⟩ := hends
  exact ⟨hsub, report, hreport, run_pruned m config hsub ["/index.js"] [] hreport⟩

end Traversal

end ModuleReach
