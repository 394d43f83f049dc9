import ModuleReach.Proofs.Pack.Verdict

/-!
# What a visit adds

A source is sound if it can be read and none of its entries is a reason to stop.  Visiting a sound source adds the
files that its entries lead to, and for each of these entries what it resolves to; a visit that ends well was to a
sound source.

## Main definitions

* `PackJob.sourceEntries` — the entries of the source at a path.
* `PackJob.leads` — the entries that lead to files, with the files' URLs.
* `PackJob.Sound` — the sources that are no reason to stop.
* `PackJob.firstPack` — the pack with which a walk begins.
* `PackJob.extend` — a pack with what the entries of a source lead to.

## Main results

* `PackJob.outcome_visit`, `PackJob.sound_of_visit` — a visit ends well exactly at sound sources, and extends the
  pack there.
* `PackJob.mem_keys_extend`, `PackJob.get?_files_extend`, `PackJob.get?_resolutions_extend` — the files and the
  resolutions of an extended pack.
-/

namespace ModuleReach

/-! ### Lists -/

theorem nodup_eraseDups : (l : List String) → l.eraseDups.Nodup
  | [] => List.nodup_nil
  | a :: l => by
    rw [List.eraseDups_cons]
    refine List.nodup_cons.2 ⟨?_, nodup_eraseDups _⟩
    simp [List.mem_eraseDups]
termination_by l => l.length
decreasing_by exact Nat.lt_succ_of_le (List.length_filter_le _ _)

/-- A list of pairs leaves at a key the last value that it gives to the key, and what was there if it gives none. -/
theorem InsertionMap.get?_foldl_insert {κ α : Type} [DecidableEq κ] (pairs : List (κ × α))
    (m : InsertionMap κ α) (key : κ) (value : α) :
    (pairs.foldl (fun m e => m.insert e.1 e.2) m).get? key = some value ↔
      (∃ before after, pairs = before ++ (key, value) :: after ∧ key ∉ after.map Prod.fst) ∨
        (key ∉ pairs.map Prod.fst ∧ m.get? key = some value) := by
  induction pairs generalizing m with
  | nil => simp
  | cons pair rest ih =>
    obtain ⟨k, v⟩ := pair
    rw [List.foldl_cons, ih, get?_insert]
    constructor
    · rintro (⟨before, after, rfl, hlast⟩ | ⟨hrest, hvalue⟩)
      · exact .inl ⟨(k, v) :: before, after, rfl, hlast⟩
      · -- No later pair writes at the key, so this one decides.
        by_cases hk : k = key
        · subst hk
          rw [if_pos rfl, Option.some.injEq] at hvalue
          subst hvalue
          exact .inl ⟨[], rest, rfl, hrest⟩
        · rw [if_neg hk] at hvalue
          refine .inr ⟨?_, hvalue⟩
          simp [Ne.symm hk, hrest]
    · rintro (⟨before, after, hpairs, hlast⟩ | ⟨hpairs, hvalue⟩)
      · cases before with
        | nil =>
          obtain ⟨hpair, rfl⟩ := List.cons.inj hpairs
          cases hpair
          exact .inr ⟨hlast, if_pos rfl⟩
        | cons first before =>
          obtain ⟨-, rfl⟩ := List.cons.inj hpairs
          exact .inl ⟨before, after, rfl, hlast⟩
      · rw [List.map_cons, List.mem_cons, not_or] at hpairs
        refine .inr ⟨hpairs.2, ?_⟩
        rw [if_neg (Ne.symm hpairs.1)]
        exact hvalue

/-! ### Texts -/

/-- A file gives a fault exactly if it has the extension of a source and is no text. -/
theorem Source.outcome_text?_eq_error_iff {path : String} {content : Bytes} {cause : Fault} :
    (text? path content).outcome = .error cause ↔
      Path.extension path ∈ extensions ∧ decode path content = .error cause := by
  have hempty : "" ∉ extensions := by decide
  unfold text?
  by_cases hsource : Path.extension path ∈ extensions
  · have hbare : Path.extension path ≠ "" := fun hbare => hempty (hbare ▸ hsource)
    have hisSource : isSource path = true := by simp [isSource, hsource]
    rw [if_pos hisSource]
    cases decode path content with
    | ok text => simp
    | error cause' => simp [hbare, hsource, Run.fail]
  · simp only [hsource, false_and, iff_false]
    -- Only a file without an extension is looked into, and then nothing is a fault.
    cases decode path content with
    | ok text => split <;> simp
    | error cause' =>
      by_cases hbare : Path.extension path = ""
      · simp [isSource, hbare]
      · simp [isSource, hbare, hsource]

/-- A file gives a fault only if it has the extension of a source and is no text. -/
theorem Source.exists_text?_iff (path : String) (content : Bytes) :
    (∃ text, (text? path content).outcome = .ok text) ↔
      (Path.extension path ∈ extensions → ∃ text, decode path content = .ok text) := by
  cases houtcome : (text? path content).outcome with
  | error cause =>
    obtain ⟨hextension, hdecode⟩ := outcome_text?_eq_error_iff.1 houtcome
    simp [hextension, hdecode]
  | ok text =>
    refine iff_of_true ⟨text, rfl⟩ fun hextension => ?_
    cases hdecode : decode path content with
    | ok text => exact ⟨text, rfl⟩
    | error cause => cases houtcome.symm.trans (outcome_text?_eq_error_iff.2 ⟨hextension, hdecode⟩)

/-- The fault of a source that is no text names it. -/
theorem Source.eq_source_of_text? {path : String} {content : Bytes} {cause : Fault}
    (h : (text? path content).outcome = .error cause) : ∃ reason, cause = .source path reason := by
  obtain ⟨-, hdecode⟩ := outcome_text?_eq_error_iff.1 h
  unfold decode at hdecode
  split at hdecode
  · cases hdecode
  · cases hdecode
    exact ⟨_, rfl⟩

namespace PackJob

variable {job : PackJob}

/-! ### Sources and their entries -/

/-- The entries of the source at a path; a file that is no source has none. -/
def sourceEntries (job : PackJob) (path : String) : List Entry :=
  match job.source? path with
  | .ok (some text) => job.lexer text
  | _ => []

/-- Reading a source is a fault only if it has the extension of one and is no text. -/
theorem exists_source?_iff (hs : job.store.Closed) (path : String) :
    (∃ text?, job.source? path = .ok text?) ↔ ∀ content, job.store.content? path = some content →
      Path.extension path ∈ Source.extensions → ∃ text, Source.decode path content = .ok text := by
  rw [source?, Store.read_eq hs]
  cases job.store.content? path with
  | none => exact ⟨fun _ _ h => (Option.some_ne_none _ h.symm).elim, fun _ => ⟨none, rfl⟩⟩
  | some content =>
    dsimp only
    rw [Source.exists_text?_iff]
    constructor
    · rintro h content' hcontent
      cases hcontent
      exact h
    · intro h
      exact h content rfl

/-- The entries among the given ones that lead to files, with the files' URLs. -/
def leads (job : PackJob) (path : String) (entries : List Entry) : List (Entry × Url) :=
  entries.filterMap fun entry =>
    match job.verdict path entry with
    | .found url => some (entry, url)
    | _ => none

theorem mem_leads {path : String} {entries : List Entry} {entry : Entry} {url : Url} :
    (entry, url) ∈ job.leads path entries ↔ entry ∈ entries ∧ job.verdict path entry = .found url := by
  unfold leads
  rw [List.mem_filterMap]
  constructor
  · rintro ⟨entry', hentry, h⟩
    split at h
    · rename_i hverdict
      cases h
      exact ⟨hentry, hverdict⟩
    · cases h
  · rintro ⟨hentry, hverdict⟩
    refine ⟨entry, hentry, ?_⟩
    rw [hverdict]

/-- An entry that is no reason to stop: it is not looked for, or it is resolved, or it may fail. -/
def Passes (job : PackJob) (path : String) (entry : Entry) : Prop :=
  entry.specifier ∈ job.builtins ∨
    (∃ url, (job.answer path entry).outcome = .ok (.resolved url)) ∨
    ∃ failure, (job.answer path entry).outcome = .ok (.unresolved failure) ∧
      Forgives job.deferred entry failure

/-- A source that is no reason to stop. -/
structure Sound (job : PackJob) (path : String) : Prop where
  /-- A file with the extension of a source is a text. -/
  decodes : ∀ content, job.store.content? path = some content →
    Path.extension path ∈ Source.extensions → ∃ text, Source.decode path content = .ok text
  /-- No entry is a reason to stop. -/
  passes : ∀ entry ∈ job.sourceEntries path, job.Passes path entry

/-! ### Extending a pack -/

/-- The pack with which a walk begins. -/
def firstPack (job : PackJob) (root : String) (content : Bytes) : Packed :=
  ⟨(∅ : InsertionMap _ _).insert root ⟨job.store.url root, content.length⟩, ∅⟩

/-- A pack with the files that some entries of the source at a path lead to. -/
def extend (job : PackJob) (path : String) (pack : Packed) (links : List (Entry × Url)) : Packed :=
  links.foldl (fun pack link => ⟨job.withFile pack.files link.2,
    pack.resolutions.add (job.store.url path).href link.1.specifier link.2.href⟩) pack

/-- The paths of the sources that some links lead to, without those visited. -/
def nextOf (visited : List String) (links : List (Entry × Url)) : List String :=
  links.flatMap fun link => next visited link.1 link.2

theorem mem_nextOf {visited : List String} {links : List (Entry × Url)} {q : String} :
    q ∈ nextOf visited links ↔
      q ∉ visited ∧ ∃ link ∈ links, link.1.isLeaf = false ∧ link.2.pathname = q := by
  unfold nextOf next
  rw [List.mem_flatMap]
  constructor
  · rintro ⟨link, hlink, hq⟩
    split at hq
    · cases hq
    · rename_i hnext
      rw [List.mem_singleton] at hq
      subst hq
      rw [not_or, Bool.not_eq_true] at hnext
      exact ⟨hnext.2, link, hlink, hnext.1, rfl⟩
  · rintro ⟨hnew, link, hlink, hleaf, rfl⟩
    refine ⟨link, hlink, ?_⟩
    rw [if_neg (by simp [hleaf, hnew])]
    exact List.mem_singleton_self _

/-- Entries that are no reason to stop extend the pack. -/
theorem outcome_visitEntries_of_passes (hjob : job.Honest) {visited : List String} {path : String}
    {entries : List Entry} (h : ∀ entry ∈ entries, job.Passes path entry) (pack : Packed)
    (queued : List String) :
    (job.visitEntries visited path entries pack queued).outcome =
      .ok (.ok (job.extend path pack (job.leads path entries),
        queued ++ nextOf visited (job.leads path entries))) := by
  induction entries generalizing pack queued with
  | nil => simp [visitEntries, leads, extend, nextOf]
  | cons entry rest ih =>
    have hrest := ih fun e he => h e (List.mem_cons_of_mem _ he)
    have hentry : job.Passes path entry := h entry List.mem_cons_self
    rw [leads, List.filterMap_cons]
    cases hverdict : job.verdict path entry with
    | builtin =>
      rw [outcome_visitEntries_builtin hverdict]
      exact hrest _ _
    | fault cause =>
      -- No reading of `Passes` fits an entry without an answer.
      obtain ⟨hbuiltin, hanswer⟩ := verdict_eq_fault_iff.1 hverdict
      rcases hentry with hmem | ⟨url, hurl⟩ | ⟨failure, hfailure, -⟩
      · exact absurd hmem hbuiltin
      · cases hanswer.symm.trans hurl
      · cases hanswer.symm.trans hfailure
    | failed failure =>
      obtain ⟨hbuiltin, hanswer⟩ := verdict_eq_failed_iff.1 hverdict
      rcases hentry with hmem | ⟨url, hurl⟩ | ⟨failure', hfailure, hforgives⟩
      · exact absurd hmem hbuiltin
      · cases hanswer.symm.trans hurl
      · cases hanswer.symm.trans hfailure
        rw [outcome_visitEntries_forgiven hverdict hforgives]
        exact hrest _ _
    | found url =>
      rw [outcome_visitEntries_found hjob hverdict, hrest, List.append_assoc]
      rfl

/-- Where visiting entries ends well, none of them is a reason to stop. -/
theorem passes_of_visitEntries (hjob : job.Honest) {visited : List String} {path : String}
    {entries : List Entry} {pack : Packed} {queued : List String} {result : Packed × List String}
    (h : (job.visitEntries visited path entries pack queued).outcome = .ok (.ok result)) :
    ∀ entry ∈ entries, job.Passes path entry := by
  induction entries generalizing pack queued with
  | nil => simp
  | cons entry rest ih =>
    rw [List.forall_mem_cons]
    cases hverdict : job.verdict path entry with
    | builtin =>
      rw [outcome_visitEntries_builtin hverdict] at h
      exact ⟨.inl (verdict_eq_builtin_iff.1 hverdict), ih h⟩
    | fault cause =>
      rw [outcome_visitEntries_fault hverdict] at h
      cases h
    | failed failure =>
      by_cases hforgives : Forgives job.deferred entry failure
      · rw [outcome_visitEntries_forgiven hverdict hforgives] at h
        exact ⟨.inr (.inr ⟨failure, (verdict_eq_failed_iff.1 hverdict).2, hforgives⟩), ih h⟩
      · rw [outcome_visitEntries_stop hverdict hforgives] at h
        cases h
    | found url =>
      rw [outcome_visitEntries_found hjob hverdict] at h
      exact ⟨.inr (.inl ⟨url, (verdict_eq_found_iff.1 hverdict).2⟩), ih h⟩

/-! ### Visits -/

/-- What a sound source leads to is added by a visit. -/
theorem outcome_visit (hjob : job.Honest) (hs : job.store.Closed) {visited : List String}
    {path : String} (h : job.Sound path) (pack : Packed) :
    (job.visit visited path pack).outcome =
      .ok (.ok (job.extend path pack (job.leads path (job.sourceEntries path)),
        nextOf visited (job.leads path (job.sourceEntries path)))) := by
  have hpasses := h.passes
  obtain ⟨text?, hsource⟩ := (exists_source?_iff hs path).2 h.decodes
  rw [outcome_visit_eq]
  rw [sourceEntries, hsource] at hpasses ⊢
  cases text? with
  | none => rfl
  | some text =>
    dsimp only at hpasses ⊢
    rw [outcome_visitEntries_of_passes hjob hpasses, List.nil_append]

/-- A visit ends well only at a sound source. -/
theorem sound_of_visit (hjob : job.Honest) (hs : job.store.Closed) {visited : List String}
    {path : String} {pack : Packed} {result : Packed × List String}
    (h : (job.visit visited path pack).outcome = .ok (.ok result)) : job.Sound path := by
  rw [outcome_visit_eq] at h
  cases hsource : job.source? path with
  | error cause =>
    rw [hsource] at h
    cases h
  | ok text? =>
    refine ⟨(exists_source?_iff hs path).1 ⟨text?, hsource⟩, ?_⟩
    rw [hsource] at h
    rw [sourceEntries, hsource]
    cases text? with
    | none => exact List.forall_mem_nil _
    | some text => exact passes_of_visitEntries hjob h

/-! ### What an extended pack holds -/

/-- The file of a pack at a path, if there is one. -/
def fileAt? (job : PackJob) (path : String) : Option PackedFile :=
  (job.store.content? path).map fun content => ⟨job.store.url path, content.length⟩

section Extend

variable {path : String} {pack : Packed} {links : List (Entry × Url)}

/-- A file that is added is the one at its path. -/
theorem withFile_eq (hjob : job.Honest) (hs : job.store.Closed) {entry : Entry} {url : Url}
    (hurl : job.verdict path entry = .found url) (files : InsertionMap String PackedFile) :
    ∃ file, job.fileAt? url.pathname = some file ∧
      job.withFile files url =
        if files.contains url.pathname then files else files.insert url.pathname file := by
  obtain ⟨heq, content, hread⟩ := hjob.finds hurl
  rw [withFile, hread]
  rw [Store.read_eq hs, Except.ok.injEq] at hread
  refine ⟨⟨url, content.length⟩, ?_, rfl⟩
  rw [fileAt?, hread, Option.map_some, ← heq]

/-- The files of an extended pack are those of the pack and those that the links lead to. -/
theorem mem_keys_extend (hjob : job.Honest) (hs : job.store.Closed)
    (hlinks : ∀ link ∈ links, job.verdict path link.1 = .found link.2) (q : String) :
    q ∈ (job.extend path pack links).files.keys ↔
      q ∈ pack.files.keys ∨ ∃ link ∈ links, link.2.pathname = q := by
  induction links generalizing pack with
  | nil => simp [extend]
  | cons link rest ih =>
    obtain ⟨file, -, hfiles⟩ := withFile_eq hjob hs (hlinks link List.mem_cons_self) pack.files
    have hextend : q ∈ (job.extend path ⟨job.withFile pack.files link.2,
        pack.resolutions.add (job.store.url path).href link.1.specifier link.2.href⟩ rest).files.keys ↔
        q ∈ (job.withFile pack.files link.2).keys ∨ ∃ l ∈ rest, l.2.pathname = q :=
      ih fun l hl => hlinks l (List.mem_cons_of_mem _ hl)
    have hkeys : q ∈ (job.withFile pack.files link.2).keys ↔
        q ∈ pack.files.keys ∨ link.2.pathname = q := by
      rw [hfiles]
      split
      · rename_i hmem
        rw [InsertionMap.contains_iff] at hmem
        constructor
        · exact .inl
        · rintro (hq | rfl)
          · exact hq
          · exact hmem
      · rw [InsertionMap.keys_insert]
        split
        · constructor
          · exact .inl
          · rintro (hq | rfl) <;> assumption
        · rw [List.mem_append, List.mem_singleton, eq_comm]
    rw [extend, List.foldl_cons, ← extend, hextend, hkeys, or_assoc]
    simp

/-- The files of an extended pack are those at their paths if those of the pack are. -/
theorem get?_files_extend (hjob : job.Honest) (hs : job.store.Closed)
    (hlinks : ∀ link ∈ links, job.verdict path link.1 = .found link.2)
    (hpack : ∀ q file, pack.files.get? q = some file → job.fileAt? q = some file)
    {q : String} {file : PackedFile} (h : (job.extend path pack links).files.get? q = some file) :
    job.fileAt? q = some file := by
  induction links generalizing pack with
  | nil => exact hpack q file h
  | cons link rest ih =>
    obtain ⟨added, hadded, hfiles⟩ := withFile_eq hjob hs (hlinks link List.mem_cons_self) pack.files
    rw [extend, List.foldl_cons, ← extend] at h
    -- The induction hypothesis is about the pack with the first file added.
    refine ih (fun l hl => hlinks l (List.mem_cons_of_mem _ hl)) ?_ h
    intro q file hget
    dsimp only at hget
    rw [hfiles] at hget
    split at hget
    · exact hpack q file hget
    · rw [InsertionMap.get?_insert] at hget
      split at hget
      · rename_i hq
        subst hq
        cases hget
        exact hadded
      · exact hpack q file hget

/-- The specifiers of some links with what they resolve to. -/
def pairsOf (links : List (Entry × Url)) : List (String × String) :=
  links.map fun link => (link.1.specifier, link.2.href)

/-- The links of a source are written over what was known of it, and change nothing else. -/
theorem get?_resolutions_extend (href : String) :
    (job.extend path pack links).resolutions.get? href =
      if links ≠ [] ∧ (job.store.url path).href = href then
        some ((pairsOf links).foldl (fun m e => m.insert e.1 e.2)
          ((pack.resolutions.get? href).getD ∅))
      else pack.resolutions.get? href := by
  induction links generalizing pack with
  | nil => simp [extend]
  | cons link rest ih =>
    rw [extend, List.foldl_cons, ← extend, ih]
    by_cases hhref : (job.store.url path).href = href
    · subst hhref
      by_cases hrest : rest = []
      · subst hrest
        simp [Resolutions.add, pairsOf]
      · simp [Resolutions.add, pairsOf, hrest]
    · simp [Resolutions.add, hhref]

end Extend

end PackJob

end ModuleReach
