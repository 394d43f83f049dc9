import ModuleReach.Resolution.Plan
import ModuleReach.Source.Decoding
import ModuleReach.Source.Entries

/-!
# Packs

A pack is the set of files that a program loads when it is started with one file, and for every file with entries what they
resolve to.

## Main definitions

* `PackedFile`, `Packed` — a file of a pack, and a pack.
* `PackOutcome` — a pack, or the entry at which making it stopped.
* `PackJob` — what making a pack depends on, the file to start from apart.
* `PackJob.Reaches`, `PackJob.StopsAt` — the paths that entries lead to, and the specifiers at which there can be a reason
  to stop.
* `PackJob.visitEntries`, `PackJob.visit` — a pack after the entries of a source.

## Main results

* `PackJob.exists_reachable`, `PackJob.exists_stops` — there are finitely many of both.
* `PackJob.reaches_of_visit`, `PackJob.stopsAt_of_visit` — a visit leads only to such paths and stops only at such
  specifiers.
-/

namespace ModuleReach

/-- A file of a pack. -/
structure PackedFile where
  url : Url
  /-- The length of the file in bytes. -/
  size : Nat
  deriving DecidableEq, Repr

/-- What each specifier in a file resolves to, by the file's URL. -/
abbrev Resolutions := InsertionMap String (InsertionMap String String)

/-- The resolutions with one more. -/
def Resolutions.add (r : Resolutions) (referrer specifier href : String) : Resolutions :=
  r.insert referrer (((r.get? referrer).getD ∅).insert specifier href)

/-- The files that a program loads, by path, in the order in which they were found. -/
structure Packed where
  files : InsertionMap String PackedFile
  resolutions : Resolutions

/-- What comes of making a pack. -/
inductive PackOutcome
  | packed (result : Packed)
  | unresolved (failure : Unresolved)

/-- A way to find the entries of a source. -/
abbrev Lexer := String → List Entry

/-- What making a pack depends on, the file to start from apart. -/
structure PackJob where
  store : Store
  resolve : Resolver
  lexer : Lexer
  /-- The specifiers that are not looked for. -/
  builtins : List String
  /-- The targets to look for. -/
  targets : List String
  /-- The specifiers that may fail to resolve. -/
  deferred : List String

namespace PackJob

/-! ### Where entries lead -/

/-- Whether an entry is one of the source that a path names. -/
def Occurs (job : PackJob) (source : String) (entry : Entry) : Prop :=
  ∃ content text, job.store.read source = .ok (some content) ∧
    (Source.text? source content).outcome = .ok (some text) ∧ entry ∈ job.lexer text

/-- The answer for an entry of the source that a path names. -/
def answer (job : PackJob) (source : String) (entry : Entry) : Run Resolution :=
  job.resolve entry (some (job.store.url source)) job.targets

/-- Whether an entry of a source leads to a path. -/
def Reaches (job : PackJob) (path : String) : Prop :=
  ∃ source entry url, job.Occurs source entry ∧
    (job.answer source entry).outcome = .ok (.resolved url) ∧ url.pathname = path

/-- Whether an entry of a source can be a reason to stop at a specifier. -/
def StopsAt (job : PackJob) (specifier : String) : Prop :=
  ∃ source entry, job.Occurs source entry ∧
    (entry.specifier = specifier ∨ ∃ failure : Unresolved,
      (job.answer source entry).outcome = .ok (.unresolved failure) ∧
      failure.specifier = specifier)

/-- The entries of the file at a canonical path, each with the file's URL, if the file is a text. -/
def entriesAt (store : Store) (lexer : Lexer) (path : String) : List (Url × Entry) :=
  match store.held path with
  | .file content =>
    match Utf8.decode (Utf8.dropMark content) with
    | .ok text => (lexer (String.ofList text)).map (Url.ofPath store.scheme path, ·)
    | .error _ => []
  | _ => []

theorem decode_of_text? {path text : String} {content : Bytes}
    (h : (Source.text? path content).outcome = .ok (some text)) :
    ∃ chars, Utf8.decode (Utf8.dropMark content) = .ok chars ∧ text = String.ofList chars := by
  unfold Source.text? Source.decode at h
  cases hd : Utf8.decode (Utf8.dropMark content) with
  | ok chars =>
    refine ⟨chars, rfl, ?_⟩
    rw [hd] at h
    split at h <;> simp_all
  | error m =>
    rw [hd] at h
    split at h
    · simp only at h
      split at h <;> simp at h
    · simp at h

/-- There are finitely many entries, since there are finitely many sources. -/
theorem exists_entries (store : Store) (lexer : Lexer) :
    ∃ all : List (Url × Entry), ∀ job : PackJob, job.store = store → job.lexer = lexer →
      ∀ source entry, job.Occurs source entry → (job.store.url source, entry) ∈ all := by
  obtain ⟨sources, hsources⟩ := store.finite
  refine ⟨sources.flatMap (entriesAt store lexer), ?_⟩
  rintro job rfl rfl source entry ⟨content, text, hread, htext, hentry⟩
  have hheld : job.store.held (Path.normalize source) = .file content := by
    unfold Store.read Held.answer at hread
    split at hread <;> simp_all
  obtain ⟨chars, hdecode, rfl⟩ := decode_of_text? htext
  refine List.mem_flatMap.2 ⟨_, hsources _ _ hheld, ?_⟩
  unfold entriesAt
  rw [hheld]
  simp only [hdecode]
  exact List.mem_map.2 ⟨entry, hentry, rfl⟩

/-- The path that an answer leads to. -/
def resolvedPath? : Except Fault Resolution → Option String
  | .ok (.resolved url) => some url.pathname
  | _ => none

/-- The specifier that an answer says has failed to resolve. -/
def failedSpecifier? : Except Fault Resolution → Option String
  | .ok (.unresolved failure) => some failure.specifier
  | _ => none

/-- Entries lead to finitely many paths. -/
theorem exists_reachable (job : PackJob) :
    ∃ paths : List String, ∀ path, job.Reaches path → path ∈ paths := by
  obtain ⟨all, hall⟩ := exists_entries job.store job.lexer
  refine ⟨all.filterMap fun e =>
    resolvedPath? (job.resolve e.2 (some e.1) job.targets).outcome, ?_⟩
  rintro path ⟨source, entry, url, hoccurs, hanswer, rfl⟩
  refine List.mem_filterMap.2 ⟨_, hall job rfl rfl source entry hoccurs, ?_⟩
  unfold answer at hanswer
  rw [hanswer, resolvedPath?]

/-- There are finitely many specifiers at which there can be a reason to stop, whichever of them may fail. -/
theorem exists_stops (job : PackJob) :
    ∃ specifiers : List String, ∀ deferred specifier,
      StopsAt { job with deferred } specifier → specifier ∈ specifiers := by
  obtain ⟨all, hall⟩ := exists_entries job.store job.lexer
  refine ⟨all.map (·.2.specifier) ++ all.filterMap fun e =>
    failedSpecifier? (job.resolve e.2 (some e.1) job.targets).outcome, ?_⟩
  rintro deferred specifier ⟨source, entry, hoccurs, h⟩
  have hmem := hall { job with deferred } rfl rfl source entry hoccurs
  rcases h with rfl | ⟨failure, hanswer, rfl⟩
  · exact List.mem_append_left _ (List.mem_map.2 ⟨_, hmem, rfl⟩)
  · refine List.mem_append_right _ (List.mem_filterMap.2 ⟨_, hmem, ?_⟩)
    unfold answer at hanswer
    rw [hanswer, failedSpecifier?]

/-! ### Visiting a source -/

/-- What comes of a part of the work: a larger pack with the paths of the sources to visit next, or the entry at
which to stop. -/
abbrev Progress := Except Unresolved (Packed × List String)

/-- The files with one more, unless it is there already; `none` if there is no such file. -/
def addFile (job : PackJob) (files : InsertionMap String PackedFile) (url : Url) :
    Except Fault (Option (InsertionMap String PackedFile)) :=
  if files.contains url.pathname then .ok (some files)
  else
    (job.store.read url.pathname).map fun content? =>
      content?.map fun content => files.insert url.pathname ⟨url, content.length⟩

/-- The paths to visit next after an entry was resolved: the one it leads to, unless the entry is a leaf or the
path has been visited. -/
def next (visited : List String) (entry : Entry) (url : Url) : List String :=
  if entry.isLeaf ∨ url.pathname ∈ visited then [] else [url.pathname]

/-- A pack after some entries of the source at `path`, with the paths to visit next. -/
def visitEntries (job : PackJob) (visited : List String) (path : String) :
    List Entry → Packed → List String → Run Progress
  | [], pack, queued => pure (.ok (pack, queued))
  | entry :: rest, pack, queued =>
    if entry.specifier ∈ job.builtins then job.visitEntries visited path rest pack queued
    else
      let referrer := job.store.url path
      let answer := job.answer path entry
      match answer.outcome with
      | .error fault => ⟨answer.notes, .error fault⟩
      | .ok (.unresolved failure) =>
        if failure.specifier ∈ job.deferred ∨ entry.specifier ∈ job.deferred then
          (job.visitEntries visited path rest pack queued).noting
            (answer.notes ++ [.passedOver entry.specifier path])
        else ⟨answer.notes, .ok (.error failure)⟩
      | .ok (.resolved url) =>
        match job.addFile pack.files url with
        | .error fault => ⟨answer.notes, .error fault⟩
        | .ok none =>
          ⟨answer.notes, .ok (.error ⟨entry.specifier, some referrer, [url.href]⟩)⟩
        | .ok (some files) =>
          (job.visitEntries visited path rest
            ⟨files, pack.resolutions.add referrer.href entry.specifier url.href⟩
            (queued ++ next visited entry url)).noting answer.notes

/-- A pack after the file at `path`, with the paths to visit next. -/
def visit (job : PackJob) (visited : List String) (path : String) (pack : Packed) :
    Run Progress :=
  match job.store.read path with
  | .ok (some content) =>
    let text := Source.text? path content
    match text.outcome with
    | .error fault => ⟨text.notes, .error fault⟩
    | .ok none => ⟨text.notes, .ok (.ok (pack, []))⟩
    | .ok (some source) =>
      (job.visitEntries visited path (job.lexer source) pack []).noting text.notes
  | .ok none => pure (.ok (pack, []))
  | .error fault => Run.fail fault

/-- Visiting entries adds only paths that some of them lead to. -/
theorem mem_of_visitEntries {job : PackJob} {visited : List String} {path p : String}
    {entries : List Entry} {pack pack' : Packed} {queued queued' : List String}
    (h : (job.visitEntries visited path entries pack queued).outcome = .ok (.ok (pack', queued')))
    (hp : p ∈ queued') :
    p ∈ queued ∨ ∃ entry ∈ entries, ∃ url,
      (job.answer path entry).outcome = .ok (.resolved url) ∧ url.pathname = p := by
  induction entries generalizing pack queued with
  | nil =>
    simp only [visitEntries, Run.outcome_pure, Except.ok.injEq, Prod.mk.injEq] at h
    exact .inl (h.2 ▸ hp)
  | cons entry rest ih =>
    have lift : ∀ {q : List String}, (p ∈ q ∨ ∃ e ∈ rest, ∃ url,
        (job.answer path e).outcome = .ok (.resolved url) ∧ url.pathname = p) →
        (p ∈ q ∨ ∃ e ∈ entry :: rest, ∃ url,
        (job.answer path e).outcome = .ok (.resolved url) ∧ url.pathname = p) := by
      rintro q (h | ⟨e, he, h⟩)
      · exact .inl h
      · exact .inr ⟨e, List.mem_cons_of_mem _ he, h⟩
    unfold visitEntries at h
    split at h
    · exact lift (ih h)
    · simp only at h
      split at h
      · simp at h
      · split at h
        · exact lift (ih (by simpa using h))
        · simp at h
      · rename_i url hurl
        split at h
        · simp at h
        · simp at h
        · rcases lift (ih (by simpa using h)) with hq | hr
          · rcases List.mem_append.1 hq with hq | hq
            · exact .inl hq
            · unfold next at hq
              split at hq
              · simp at hq
              · exact .inr ⟨entry, by simp, url, hurl, (List.mem_singleton.1 hq).symm⟩
          · exact .inr hr

/-- Visiting entries stops at the specifier of one of them, or at the one that the answer for it names. -/
theorem exists_of_visitEntries {job : PackJob} {visited : List String} {path : String}
    {entries : List Entry} {pack : Packed} {queued : List String} {failure : Unresolved}
    (h : (job.visitEntries visited path entries pack queued).outcome = .ok (.error failure)) :
    ∃ entry ∈ entries, entry.specifier = failure.specifier ∨
      (job.answer path entry).outcome = .ok (.unresolved failure) := by
  induction entries generalizing pack queued with
  | nil => simp [visitEntries] at h
  | cons entry rest ih =>
    have lift : (∃ e ∈ rest, e.specifier = failure.specifier ∨
        (job.answer path e).outcome = .ok (.unresolved failure)) →
        ∃ e ∈ entry :: rest, e.specifier = failure.specifier ∨
        (job.answer path e).outcome = .ok (.unresolved failure) := by
      rintro ⟨e, he, h⟩
      exact ⟨e, List.mem_cons_of_mem _ he, h⟩
    unfold visitEntries at h
    split at h
    · exact lift (ih h)
    · simp only at h
      split at h
      · simp at h
      · rename_i failure' hanswer
        split at h
        · exact lift (ih (by simpa using h))
        · simp only [Except.ok.injEq, Except.error.injEq] at h
          exact ⟨entry, by simp, .inr (h ▸ hanswer)⟩
      · split at h
        · simp at h
        · simp only [Except.ok.injEq, Except.error.injEq] at h
          exact ⟨entry, by simp, .inl (h ▸ rfl)⟩
        · exact lift (ih (by simpa using h))

/-- A visit leads only to paths that entries of sources lead to. -/
theorem reaches_of_visit {job : PackJob} {visited : List String} {path p : String}
    {pack pack' : Packed} {queued : List String}
    (h : (job.visit visited path pack).outcome = .ok (.ok (pack', queued))) (hp : p ∈ queued) :
    job.Reaches p := by
  unfold visit at h
  split at h
  · rename_i content hread
    simp only at h
    split at h
    · simp at h
    · simp only [Except.ok.injEq, Prod.mk.injEq] at h
      simp [← h.2] at hp
    · rename_i text htext
      rcases mem_of_visitEntries (by simpa using h) hp with hq | ⟨entry, hentry, url, hurl, hpath⟩
      · simp at hq
      · exact ⟨path, entry, url, ⟨content, text, hread, htext, hentry⟩, hurl, hpath⟩
  · simp only [Run.outcome_pure, Except.ok.injEq, Prod.mk.injEq] at h
    simp [← h.2] at hp
  · simp at h

/-- A visit stops only at specifiers at which there can be a reason to stop. -/
theorem stopsAt_of_visit {job : PackJob} {visited : List String} {path : String} {pack : Packed}
    {failure : Unresolved} (h : (job.visit visited path pack).outcome = .ok (.error failure)) :
    job.StopsAt failure.specifier := by
  unfold visit at h
  split at h
  · rename_i content hread
    simp only at h
    split at h
    · simp at h
    · simp at h
    · rename_i text htext
      obtain ⟨entry, hentry, hstop⟩ := exists_of_visitEntries (by simpa using h)
      exact ⟨path, entry, ⟨content, text, hread, htext, hentry⟩,
        hstop.imp_right fun h => ⟨failure, h, rfl⟩⟩
  · simp at h
  · simp at h

end PackJob

end ModuleReach
