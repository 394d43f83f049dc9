import ModuleReach.Store.Memory
import ModuleReach.Proofs.Pack.Visit

/-!
# What a pack is made of

A program loads the file that it starts with, and with each source the files that its entries lead to, addons and
assets apart, which are leaves.  Making a pack ends well exactly if no source that is loaded is a reason to stop, and
then the pack has the loaded files and the leaves, each once, and for every loaded source what its entries
resolve to.

## Main definitions

* `PackJob.Loads` — the sources that a program loads.
* `PackJob.Invariant` — what a walk keeps from one visit to the next.
* `PackJob.Covers` — the packs that have all that a program loads and nothing else.

## Main results

* `PackJob.exists_invariant_of_walk`, `PackJob.exists_packed_of_sound` — a walk that ends well keeps the invariant to its
  end, and one through sound sources ends well.
* `PackJob.pack_standard` — both for a store in memory and the standard resolver.
-/

namespace ModuleReach

namespace PackJob

variable {job : PackJob}

/-- The sources that a program loads which starts with a file: the least set of paths that has the file and the
paths that entries of loaded sources lead to, addons and assets apart. -/
inductive Loads (job : PackJob) (root : String) : String → Prop
  | root : Loads job root root
  | step {path : String} {entry : Entry} {url : Url} : Loads job root path →
      entry ∈ job.sourceEntries path → entry.specifier ∉ job.builtins →
      (job.answer path entry).outcome = .ok (.resolved url) → entry.isLeaf = false →
      Loads job root url.pathname

/-- The leaves of a program: the paths that addons and assets of loaded sources lead to. -/
def LoadsLeaf (job : PackJob) (root q : String) : Prop :=
  ∃ path entry url, job.Loads root path ∧ entry ∈ job.sourceEntries path ∧
    entry.specifier ∉ job.builtins ∧ (job.answer path entry).outcome = .ok (.resolved url) ∧
    entry.isLeaf = true ∧ url.pathname = q

/-- The entries of the source at a path that lead to files, in order, with the files' URLs. -/
def sourceLinks (job : PackJob) (path : String) : List (Entry × Url) :=
  job.leads path (job.sourceEntries path)

theorem mem_sourceLinks {path : String} {entry : Entry} {url : Url} :
    (entry, url) ∈ job.sourceLinks path ↔ entry ∈ job.sourceEntries path ∧
      entry.specifier ∉ job.builtins ∧ (job.answer path entry).outcome = .ok (.resolved url) := by
  rw [sourceLinks, mem_leads, verdict_eq_found_iff]

theorem Loads.of_link {root path : String} {link : Entry × Url} (h : job.Loads root path)
    (hlink : link ∈ job.sourceLinks path) (hleaf : link.1.isLeaf = false) :
    job.Loads root link.2.pathname := by
  obtain ⟨hentry, hbuiltin, hanswer⟩ := mem_sourceLinks.1 hlink
  exact .step h hentry hbuiltin hanswer hleaf

/-- Loaded sources are at canonical paths. -/
theorem Loads.normalize_eq (hjob : job.Honest) {root path : String} (hroot : Path.normalize root = root)
    (h : job.Loads root path) : Path.normalize path = path := by
  cases h with
  | root => exact hroot
  | step _ _ hbuiltin hanswer _ =>
    obtain ⟨heq, -⟩ := hjob.finds (verdict_eq_found_iff.2 ⟨hbuiltin, hanswer⟩)
    have hpathname := congrArg Url.pathname heq
    exact hpathname.symm

/-- Different canonical paths have different URLs. -/
theorem eq_of_href_url {store : Store} {p q : String} (hp : Path.normalize p = p)
    (hq : Path.normalize q = q) (h : (store.url p).href = (store.url q).href) : p = q := by
  rw [← hp, ← hq]
  exact Store.normalize_eq_of_href_url h

/-! ### The invariant -/

/-- What a walk keeps from one visit to the next. -/
structure Invariant (job : PackJob) (root : String) (visited queue : List String) (pack : Packed) :
    Prop where
  /-- The program loads what is visited and what is queued. -/
  visitedLoads : ∀ p ∈ visited, job.Loads root p
  queueLoads : ∀ p ∈ queue, job.Loads root p
  /-- What a visited source loads is visited or queued. -/
  closed : ∀ p ∈ visited, ∀ link ∈ job.sourceLinks p, link.1.isLeaf = false →
    link.2.pathname ∈ visited ∨ link.2.pathname ∈ queue
  rooted : root ∈ visited ∨ root ∈ queue
  /-- No visited source is a reason to stop. -/
  sound : ∀ p ∈ visited, job.Sound p
  /-- The pack has the first file, and those that visited sources lead to. -/
  mem_files : ∀ q, q ∈ pack.files.keys ↔
    q = root ∨ ∃ p ∈ visited, ∃ link ∈ job.sourceLinks p, link.2.pathname = q
  files : ∀ q file, pack.files.get? q = some file → job.fileAt? q = some file
  /-- The pack has what the links of visited sources resolve to. -/
  resolutions : ∀ href links, pack.resolutions.get? href = some links ↔
    ∃ p ∈ visited, (job.store.url p).href = href ∧ job.sourceLinks p ≠ [] ∧
      links = InsertionMap.ofList (pairsOf (job.sourceLinks p))

namespace Invariant

variable {root path : String} {visited rest : List String} {pack : Packed}

/-- A path that was visited can be passed over. -/
theorem skip (inv : job.Invariant root visited (path :: rest) pack) (hvisited : path ∈ visited) :
    job.Invariant root visited rest pack := by
  have hqueue : ∀ p, p ∈ visited ∨ p ∈ path :: rest → p ∈ visited ∨ p ∈ rest := by
    rintro p (hp | hp)
    · exact .inl hp
    · rcases List.mem_cons.1 hp with rfl | hp
      · exact .inl hvisited
      · exact .inr hp
  exact { inv with
    queueLoads := fun p hp => inv.queueLoads p (List.mem_cons_of_mem _ hp)
    closed := fun p hp link hlink hleaf => hqueue _ (inv.closed p hp link hlink hleaf)
    rooted := hqueue _ inv.rooted }

/-- The resolutions after a visit: the URL of the visited source is not that of one visited before. -/
theorem resolutions_extend (inv : job.Invariant root visited (path :: rest) pack)
    (hjob : job.Honest) (hroot : Path.normalize root = root) (hnew : path ∉ visited) (href : String)
    (links : InsertionMap String String) :
    (job.extend path pack (job.sourceLinks path)).resolutions.get? href = some links ↔
      ∃ p ∈ path :: visited, (job.store.url p).href = href ∧ job.sourceLinks p ≠ [] ∧
        links = InsertionMap.ofList (pairsOf (job.sourceLinks p)) := by
  have hpath := (inv.queueLoads path List.mem_cons_self).normalize_eq hjob hroot
  have hother : ∀ p ∈ visited, (job.store.url p).href ≠ (job.store.url path).href := by
    intro p hp heq
    have hcanonical := (inv.visitedLoads p hp).normalize_eq hjob hroot
    exact hnew (eq_of_href_url hcanonical hpath heq ▸ hp)
  -- So nothing has been written under this URL yet.
  have hfresh : pack.resolutions.get? (job.store.url path).href = none := by
    rw [Option.eq_none_iff_forall_ne_some]
    intro links' hlinks'
    obtain ⟨p, hp, heq, -⟩ := (inv.resolutions _ _).1 hlinks'
    exact hother p hp heq
  rw [get?_resolutions_extend]
  by_cases hhref : (job.store.url path).href = href
  · subst hhref
    rw [hfresh]
    constructor
    · intro h
      split at h
      · rename_i hlinks
        cases h
        exact ⟨path, List.mem_cons_self, rfl, hlinks.1, rfl⟩
      · cases h
    · rintro ⟨p, hp, heq, hlinks, rfl⟩
      rcases List.mem_cons.1 hp with rfl | hp
      · rw [if_pos ⟨hlinks, rfl⟩]
        rfl
      · exact absurd heq (hother p hp)
  · rw [if_neg fun h => hhref h.2, inv.resolutions]
    constructor
    · rintro ⟨p, hp, h⟩
      exact ⟨p, List.mem_cons_of_mem _ hp, h⟩
    · rintro ⟨p, hp, heq, h⟩
      rcases List.mem_cons.1 hp with rfl | hp
      · exact absurd heq hhref
      · exact ⟨p, hp, heq, h⟩

/-- The visit of a sound source keeps the invariant. -/
theorem visit (inv : job.Invariant root visited (path :: rest) pack) (hjob : job.Honest)
    (hs : job.store.Closed) (hroot : Path.normalize root = root) (hnew : path ∉ visited)
    (hsound : job.Sound path) :
    job.Invariant root (path :: visited)
      (rest ++ nextOf (path :: visited) (job.sourceLinks path))
      (job.extend path pack (job.sourceLinks path)) := by
  have hload : job.Loads root path := inv.queueLoads path List.mem_cons_self
  have hlinks : ∀ link ∈ job.sourceLinks path, job.verdict path link.1 = .found link.2 :=
    fun link hlink => (mem_leads.1 hlink).2
  -- What was visited or queued before the visit still is.
  have hkept : ∀ p, p ∈ visited ∨ p ∈ path :: rest → p ∈ path :: visited ∨
      p ∈ rest ++ nextOf (path :: visited) (job.sourceLinks path) := by
    rintro p (hp | hp)
    · exact .inl (List.mem_cons_of_mem _ hp)
    · rcases List.mem_cons.1 hp with rfl | hp
      · exact .inl List.mem_cons_self
      · exact .inr (List.mem_append_left _ hp)
  constructor
  · intro p hp
    rcases List.mem_cons.1 hp with rfl | hp
    · exact hload
    · exact inv.visitedLoads p hp
  · intro p hp
    rcases List.mem_append.1 hp with hp | hp
    · exact inv.queueLoads p (List.mem_cons_of_mem _ hp)
    · obtain ⟨-, link, hlink, hleaf, rfl⟩ := mem_nextOf.1 hp
      exact hload.of_link hlink hleaf
  · intro p hp link hlink hleaf
    rcases List.mem_cons.1 hp with rfl | hp
    · by_cases hvisited : link.2.pathname ∈ p :: visited
      · exact .inl hvisited
      · exact .inr (List.mem_append_right _ (mem_nextOf.2 ⟨hvisited, link, hlink, hleaf, rfl⟩))
    · exact hkept _ (inv.closed p hp link hlink hleaf)
  · exact hkept _ inv.rooted
  · intro p hp
    rcases List.mem_cons.1 hp with rfl | hp
    · exact hsound
    · exact inv.sound p hp
  · intro q
    rw [mem_keys_extend hjob hs hlinks, inv.mem_files, or_assoc]
    refine or_congr_right ?_
    constructor
    · rintro (⟨p, hp, h⟩ | h)
      · exact ⟨p, List.mem_cons_of_mem _ hp, h⟩
      · exact ⟨path, List.mem_cons_self, h⟩
    · rintro ⟨p, hp, h⟩
      rcases List.mem_cons.1 hp with rfl | hp
      · exact .inr h
      · exact .inl ⟨p, hp, h⟩
  · intro q file hfile
    exact get?_files_extend hjob hs hlinks inv.files hfile
  · exact inv.resolutions_extend hjob hroot hnew

/-- At the end of a walk all that the program loads has been visited. -/
theorem mem_visited (inv : job.Invariant root visited [] pack) {p : String} (h : job.Loads root p) :
    p ∈ visited := by
  have hvisited : ∀ {q}, q ∈ visited ∨ q ∈ [] → q ∈ visited :=
    fun h => h.resolve_right List.not_mem_nil
  induction h with
  | root => exact hvisited inv.rooted
  | step _ hentry hbuiltin hanswer hleaf ih =>
    exact hvisited (inv.closed _ ih _ (mem_sourceLinks.2 ⟨hentry, hbuiltin, hanswer⟩) hleaf)

end Invariant

/-! ### Walks -/

section Walk

variable {root : String} {visited queue : List String} {pack : Packed}
  {hqueue : ∀ path ∈ queue, path ∈ root :: job.reachable}

/-- A walk that ends well keeps the invariant to its end. -/
theorem exists_invariant_of_walk (hjob : job.Honest) (hs : job.store.Closed)
    (hroot : Path.normalize root = root) (inv : job.Invariant root visited queue pack) {result : Packed}
    (h : (job.walk root visited pack queue hqueue).outcome = .ok (.packed result)) :
    ∃ visited', job.Invariant root visited' [] result := by
  fun_induction walk job root visited pack queue hqueue with
  | case1 visited pack =>
    cases h
    exact ⟨visited, inv⟩
  | case2 visited pack path rest hqueue hvisited _ ih => exact ih (inv.skip hvisited) h
  | case3 => cases h
  | case4 => cases h
  | case5 visited pack path rest hqueue hnew visit pack' queued hvisit _ ih =>
    have hsound : job.Sound path := sound_of_visit hjob hs hvisit
    cases hvisit.symm.trans (outcome_visit hjob hs hsound pack)
    exact ih (inv.visit hjob hs hroot hnew hsound) h

/-- A walk through sound sources ends well. -/
theorem exists_packed_of_sound (hjob : job.Honest) (hs : job.store.Closed)
    (hroot : Path.normalize root = root) (inv : job.Invariant root visited queue pack)
    (hsound : ∀ p, job.Loads root p → job.Sound p) :
    ∃ result, (job.walk root visited pack queue hqueue).outcome = .ok (.packed result) := by
  fun_induction walk job root visited pack queue hqueue with
  | case1 visited pack => exact ⟨pack, rfl⟩
  | case2 visited pack path rest hqueue hvisited _ ih => exact ih (inv.skip hvisited)
  | case3 visited pack path rest hqueue hnew visit cause hvisit =>
    have hpath := hsound path (inv.queueLoads path List.mem_cons_self)
    cases hvisit.symm.trans (outcome_visit hjob hs hpath pack)
  | case4 visited pack path rest hqueue hnew visit failure hvisit =>
    have hpath := hsound path (inv.queueLoads path List.mem_cons_self)
    cases hvisit.symm.trans (outcome_visit hjob hs hpath pack)
  | case5 visited pack path rest hqueue hnew visit pack' queued hvisit _ ih =>
    have hpath := hsound path (inv.queueLoads path List.mem_cons_self)
    cases hvisit.symm.trans (outcome_visit hjob hs hpath pack)
    exact ih (inv.visit hjob hs hroot hnew hpath)

end Walk

/-! ### Packs -/

/-- The packs that have all that a program loads and nothing else. -/
structure Covers (job : PackJob) (root : String) (pack : Packed) : Prop where
  /-- No file is there twice. -/
  nodup : pack.files.keys.Nodup
  /-- The files are the sources that the program loads and its leaves. -/
  mem_files : ∀ q, q ∈ pack.files.keys ↔ job.Loads root q ∨ job.LoadsLeaf root q
  /-- A file has its URL and its length. -/
  files : ∀ q file, pack.files.get? q = some file →
    ∃ content, job.store.content? q = some content ∧ file = ⟨job.store.url q, content.length⟩
  /-- There are resolutions for the loaded sources that lead to files. -/
  mem_resolutions : ∀ href, href ∈ pack.resolutions.keys ↔
    ∃ p, job.Loads root p ∧ job.sourceLinks p ≠ [] ∧ (job.store.url p).href = href
  /-- The resolutions for a source are those of its links; of those with one specifier the last one counts. -/
  resolutions : ∀ p, job.Loads root p → ∀ specifier href,
    (∃ links, pack.resolutions.get? (job.store.url p).href = some links ∧
        links.get? specifier = some href) ↔
      ∃ before entry url after, job.sourceLinks p = before ++ (entry, url) :: after ∧
        entry.specifier = specifier ∧ url.href = href ∧
        ∀ link ∈ after, link.1.specifier ≠ specifier

/-- The last link with a specifier says what the specifier resolves to. -/
theorem get?_ofList_pairsOf (links : List (Entry × Url)) (specifier href : String) :
    (InsertionMap.ofList (pairsOf links)).get? specifier = some href ↔
      ∃ before entry url after, links = before ++ (entry, url) :: after ∧
        entry.specifier = specifier ∧ url.href = href ∧
        ∀ link ∈ after, link.1.specifier ≠ specifier := by
  rw [InsertionMap.ofList, InsertionMap.get?_foldl_insert]
  constructor
  · rintro (⟨before, after, hpairs, hlast⟩ | ⟨-, hempty⟩)
    · obtain ⟨before', rest, rfl, -, hrest⟩ := List.map_eq_append_iff.1 hpairs
      obtain ⟨⟨entry, url⟩, after', rfl, hpair, rfl⟩ := List.map_eq_cons_iff.1 hrest
      cases hpair
      refine ⟨before', entry, url, after', rfl, rfl, rfl, ?_⟩
      intro link hlink heq
      refine hlast (List.mem_map.2 ⟨_, List.mem_map.2 ⟨link, hlink, rfl⟩, heq⟩)
    · cases hempty
  · rintro ⟨before, entry, url, after, rfl, rfl, rfl, hlast⟩
    refine .inl ⟨pairsOf before, pairsOf after, by simp [pairsOf], ?_⟩
    intro hmem
    obtain ⟨pair, hpair, heq⟩ := List.mem_map.1 hmem
    obtain ⟨link, hlink, rfl⟩ := List.mem_map.1 hpair
    exact hlast link hlink heq

section End

variable {root : String} {visited : List String} {pack : Packed}

/-- At the end of a walk the files are what the program loads. -/
theorem Invariant.mem_files_iff (inv : job.Invariant root visited [] pack) (q : String) :
    q ∈ pack.files.keys ↔ job.Loads root q ∨ job.LoadsLeaf root q := by
  rw [inv.mem_files]
  constructor
  · rintro (rfl | ⟨p, hp, ⟨entry, url⟩, hlink, rfl⟩)
    · exact .inl .root
    · have hload := inv.visitedLoads p hp
      cases hleaf : entry.isLeaf with
      | false => exact .inl (hload.of_link hlink hleaf)
      | true =>
        obtain ⟨hentry, hbuiltin, hanswer⟩ := mem_sourceLinks.1 hlink
        exact .inr ⟨p, entry, url, hload, hentry, hbuiltin, hanswer, hleaf, rfl⟩
  · rintro (hload | ⟨p, entry, url, hload, hentry, hbuiltin, hanswer, -, rfl⟩)
    · cases hload with
      | root => exact .inl rfl
      | step hload hentry hbuiltin hanswer _ =>
        have hlink := mem_sourceLinks.2 ⟨hentry, hbuiltin, hanswer⟩
        exact .inr ⟨_, inv.mem_visited hload, _, hlink, rfl⟩
    · have hlink := mem_sourceLinks.2 ⟨hentry, hbuiltin, hanswer⟩
      exact .inr ⟨p, inv.mem_visited hload, (entry, url), hlink, rfl⟩

/-- At the end of a walk a loaded source has the resolutions of its links. -/
theorem Invariant.resolves_iff (inv : job.Invariant root visited [] pack) (hjob : job.Honest)
    (hroot : Path.normalize root = root) {p : String} (hload : job.Loads root p)
    (specifier href : String) :
    (∃ links, pack.resolutions.get? (job.store.url p).href = some links ∧
        links.get? specifier = some href) ↔
      (InsertionMap.ofList (pairsOf (job.sourceLinks p))).get? specifier = some href := by
  constructor
  · rintro ⟨links, hlinks, hget⟩
    obtain ⟨p', hp', heq, -, rfl⟩ := (inv.resolutions _ _).1 hlinks
    -- The URL of a canonical path belongs to no other source.
    have hcanonical := (inv.visitedLoads p' hp').normalize_eq hjob hroot
    rw [eq_of_href_url hcanonical (hload.normalize_eq hjob hroot) heq] at hget
    exact hget
  · intro hget
    have hne : job.sourceLinks p ≠ [] := by
      intro hnil
      rw [hnil] at hget
      cases hget
    exact ⟨_, (inv.resolutions _ _).2 ⟨p, inv.mem_visited hload, rfl, hne, rfl⟩, hget⟩

/-- A pack at the end of a walk covers what the program loads. -/
theorem Invariant.covers (inv : job.Invariant root visited [] pack) (hjob : job.Honest)
    (hroot : Path.normalize root = root) : job.Covers root pack where
  nodup := pack.files.nodup
  mem_files := inv.mem_files_iff
  files := by
    intro q file hfile
    have hat := inv.files q file hfile
    rw [fileAt?, Option.map_eq_some_iff] at hat
    obtain ⟨content, hcontent, rfl⟩ := hat
    exact ⟨content, hcontent, rfl⟩
  mem_resolutions := by
    intro href
    rw [← InsertionMap.contains_iff, InsertionMap.contains, Option.isSome_iff_exists]
    constructor
    · rintro ⟨links, hlinks⟩
      obtain ⟨p, hp, hhref, hne, -⟩ := (inv.resolutions href links).1 hlinks
      exact ⟨p, inv.visitedLoads p hp, hne, hhref⟩
    · rintro ⟨p, hload, hne, hhref⟩
      exact ⟨_, (inv.resolutions href _).2 ⟨p, inv.mem_visited hload, hhref, hne, rfl⟩⟩
  resolutions := by
    intro p hload specifier href
    rw [inv.resolves_iff hjob hroot hload, get?_ofList_pairsOf]

end End

/-- The invariant at the start of a walk. -/
theorem invariant_start {root : String} {file : PackedFile} (hfile : job.fileAt? root = some file) :
    job.Invariant root [] [root] ⟨(∅ : InsertionMap _ _).insert root file, ∅⟩ where
  visitedLoads := by simp
  queueLoads := by
    intro p hp
    rw [List.mem_singleton] at hp
    exact hp ▸ .root
  closed := by simp
  rooted := .inr (List.mem_singleton_self _)
  sound := by simp
  mem_files := by simp [InsertionMap.keys_insert]
  files := by
    intro q file' hget
    rw [InsertionMap.get?_insert, InsertionMap.get?_empty] at hget
    split at hget
    · rename_i hq
      subst hq
      cases hget
      exact hfile
    · cases hget
  resolutions := by simp

/-- Making a pack in a closed store stops at once if the first file is missing; otherwise it is a walk that begins with the
invariant. -/
theorem pack_cases (hs : job.store.Closed) (entrypoint : String) :
    (job.store.has entrypoint = false ∧
      ∀ pack, (job.pack entrypoint).outcome ≠ .ok (.packed pack)) ∨
    (job.store.has entrypoint = true ∧ ∃ start,
      job.Invariant (Path.normalize entrypoint) [] [Path.normalize entrypoint] start ∧
      job.pack entrypoint = job.walk (Path.normalize entrypoint) [] start
        [Path.normalize entrypoint] (job.start_mem _)) := by
  unfold pack
  dsimp only
  rw [Store.read_eq hs, Store.content?_normalize, Store.has]
  cases hcontent : job.store.content? entrypoint with
  | none =>
    refine .inl ⟨rfl, ?_⟩
    intro pack hpack
    cases hpack
  | some content =>
    have hfile : job.fileAt? (Path.normalize entrypoint) =
        some ⟨job.store.url (Path.normalize entrypoint), content.length⟩ := by
      rw [fileAt?, Store.content?_normalize, hcontent, Option.map_some]
    exact .inr ⟨rfl, _, invariant_start hfile, rfl⟩

/-- Making a pack in a closed store ends well exactly if the first file is there and no source that the program loads is
a reason to stop. -/
theorem exists_packed_iff (hjob : job.Honest) (hs : job.store.Closed) (entrypoint : String) :
    (∃ pack, (job.pack entrypoint).outcome = .ok (.packed pack)) ↔
      job.store.has entrypoint = true ∧
        ∀ p, job.Loads (Path.normalize entrypoint) p → job.Sound p := by
  have hroot := Path.normalize_normalize entrypoint
  rcases pack_cases hs entrypoint with ⟨hmissing, hstop⟩ | ⟨hhas, start, hstart, hwalk⟩
  · rw [hmissing]
    constructor
    · rintro ⟨pack, hpack⟩
      exact absurd hpack (hstop pack)
    · rintro ⟨hhas, -⟩
      cases hhas
  · rw [hwalk]
    constructor
    · rintro ⟨pack, hpack⟩
      obtain ⟨visited, inv⟩ := exists_invariant_of_walk hjob hs hroot hstart hpack
      exact ⟨hhas, fun p hload => inv.sound p (inv.mem_visited hload)⟩
    · rintro ⟨-, hsound⟩
      exact exists_packed_of_sound hjob hs hroot hstart hsound

/-- A pack that is made in a closed store keeps the invariant to its end. -/
theorem exists_invariant_of_pack (hjob : job.Honest) (hs : job.store.Closed) {entrypoint : String} {pack : Packed}
    (h : (job.pack entrypoint).outcome = .ok (.packed pack)) :
    ∃ visited, job.Invariant (Path.normalize entrypoint) visited [] pack := by
  rcases pack_cases hs entrypoint with ⟨-, hstop⟩ | ⟨-, start, hstart, hwalk⟩
  · exact absurd h (hstop pack)
  · rw [hwalk] at h
    exact exists_invariant_of_walk hjob hs (Path.normalize_normalize entrypoint) hstart h

/-- A pack that is made in a closed store covers what the program loads. -/
theorem covers_of_pack (hjob : job.Honest) (hs : job.store.Closed) {entrypoint : String} {pack : Packed}
    (h : (job.pack entrypoint).outcome = .ok (.packed pack)) :
    job.Covers (Path.normalize entrypoint) pack := by
  obtain ⟨visited, inv⟩ := exists_invariant_of_pack hjob hs h
  exact inv.covers hjob (Path.normalize_normalize entrypoint)

/-- The resolutions of a pack that is made in a closed store are those of the loaded sources with links. -/
theorem get?_resolutions_of_pack (hjob : job.Honest) (hs : job.store.Closed) {entrypoint : String} {pack : Packed}
    (h : (job.pack entrypoint).outcome = .ok (.packed pack)) (href : String)
    (links : InsertionMap String String) :
    pack.resolutions.get? href = some links ↔
      ∃ path, job.Loads (Path.normalize entrypoint) path ∧ (job.store.url path).href = href ∧
        job.sourceLinks path ≠ [] ∧ links = InsertionMap.ofList (pairsOf (job.sourceLinks path)) := by
  obtain ⟨visited, inv⟩ := exists_invariant_of_pack hjob hs h
  rw [inv.resolutions]
  constructor
  · rintro ⟨path, hpath, hlinks⟩
    exact ⟨path, inv.visitedLoads path hpath, hlinks⟩
  · rintro ⟨path, hload, hlinks⟩
    exact ⟨path, inv.mem_visited hload, hlinks⟩

/-- **A pack is what the program loads.**  For a store in memory and the standard resolver, making a pack ends well exactly
if the file to start with is there, every loaded source decodes and each of its entries is not looked for, resolved, or
one that may fail; and then the pack covers what the program loads.  If all targets can be read, there is an answer for
every entry, so that an entry is either resolved or not. -/
theorem pack_standard (m : MemoryStore) (lexer : Lexer) (builtins targets deferred : List String)
    (entrypoint : String) :
    let job := standard m.toStore lexer builtins targets deferred
    let root := Path.normalize entrypoint
    ((∃ pack, (job.pack entrypoint).outcome = .ok (.packed pack)) ↔
      m.toStore.has entrypoint = true ∧ ∀ p, job.Loads root p → job.Sound p) ∧
    (∀ pack, (job.pack entrypoint).outcome = .ok (.packed pack) → job.Covers root pack) ∧
    ((∀ target ∈ targets, (Target.parse? target).isSome) →
      ∀ p entry, ∃ answer, (job.answer p entry).outcome = .ok answer) := by
  intro job root
  have hs : job.store.Closed := m.closed_toStore
  have hjob : job.Honest := honest_standard hs
  refine ⟨exists_packed_iff hjob hs entrypoint, fun pack hpack => covers_of_pack hjob hs hpack, ?_⟩
  intro htargets p entry
  obtain ⟨conditions, hconditions⟩ := exists_buildConditions htargets
  exact ⟨_, Resolver.outcome_standard hs entry (some (job.store.url p)) hconditions⟩

end PackJob

end ModuleReach
