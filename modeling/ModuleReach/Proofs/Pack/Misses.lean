import ModuleReach.Proofs.Pack.Closure
import ModuleReach.Proofs.Pack.Sweep
import ModuleReach.Proofs.Source.Named

/-!
# What a sweep misses

A miss is an entry that fails to resolve.  Where every entry has an answer, the files that a sweep finds
do not depend on what is put aside, and neither do the misses that it meets on its way; only what becomes
of a miss does.  What a sweep skips follows from the misses and from what was put aside at first: of the
misses that this does not forgive, it skips the first one for each specifier.

## Main definitions

* `Miss`, `Miss.skip` — an entry that fails to resolve, and what is reported of it.
* `Tally.meetAll` — what some misses do to a tally.
* `PackJob.sourceMisses` — the misses of a source.
* `PackJob.Exhausts` — the sources that a sweep to its end goes through.

## Main results

* `mem_eraseDupsBy_iff`, `filter_eraseDupsBy` — of the elements with one key, the first one is kept.
* `Tally.skips_meetAll` — what is skipped of some misses.
* `PackJob.exists_sweep_eq` — a sweep finds the same and meets the same misses, whatever is put aside.
* `PackJob.specifier_sourceMisses`, `PackJob.named_sourceMisses` — the standard resolver reports a miss under the name
  of its entry, or under `.`.
-/

namespace ModuleReach

/-! ### The first element for each key -/

section Firsts

variable {α κ : Type} [BEq κ] [LawfulBEq κ] {key : α → κ}

/-- Of the elements with one key the first one is kept. -/
theorem mem_eraseDupsBy_iff {a : α} : (l : List α) →
    (a ∈ l.eraseDupsBy (fun b c => key b == key c) ↔ l.find? (key · == key a) = some a)
  | [] => by simp
  | b :: rest => by
    rw [List.eraseDupsBy_cons, List.mem_cons, mem_eraseDupsBy_iff]
    by_cases hkey : key b = key a
    · -- Nothing with this key is left behind the first element.
      have hrest : (rest.filter fun c => decide ((key c == key b) = false)).find? (key · == key a) ≠
          some a := by
        intro h
        have hmem := (List.mem_filter.1 (List.mem_of_find?_eq_some h)).2
        simp [hkey] at hmem
      rw [List.find?_cons_of_pos (by simpa using hkey), or_iff_left hrest, Option.some.injEq, eq_comm]
    · have hrest : (rest.filter fun c => decide ((key c == key b) = false)).find? (key · == key a) =
          rest.find? (key · == key a) := by
        rw [List.find?_filter]
        congr 1
        funext c
        by_cases hc : key c = key a
        · simp [hc, Ne.symm hkey]
        · simp [hc]
      have hne : a ≠ b := fun h => hkey (h ▸ rfl)
      rw [List.find?_cons_of_neg (by simpa using hkey), or_iff_right hne, hrest]
termination_by l => l.length
decreasing_by
  exact Nat.lt_succ_of_le (List.length_filter_le _ _)

/-- No key is lost. -/
theorem mem_map_eraseDupsBy_iff {l : List α} {k : κ} :
    k ∈ (l.eraseDupsBy fun b c => key b == key c).map key ↔ k ∈ l.map key := by
  constructor
  · intro h
    obtain ⟨a, ha, rfl⟩ := List.mem_map.1 h
    exact List.mem_map_of_mem (List.mem_of_find?_eq_some ((mem_eraseDupsBy_iff l).1 ha))
  · intro h
    obtain ⟨a, ha, rfl⟩ := List.mem_map.1 h
    have hsome : (l.find? (key · == key a)).isSome := List.find?_isSome.2 ⟨a, ha, beq_self_eq_true _⟩
    -- The first element with the key is the one that is kept.
    obtain ⟨first, hfirst⟩ := Option.isSome_iff_exists.1 hsome
    have hkey : key first = key a := by simpa using List.find?_some hfirst
    refine List.mem_map.2 ⟨first, (mem_eraseDupsBy_iff l).2 ?_, hkey⟩
    rw [hkey, hfirst]

/-- What asks only for the key may be asked before or after. -/
theorem filter_eraseDupsBy {p : α → Bool} (hp : ∀ a b, key a = key b → p a = p b) : (l : List α) →
    (l.eraseDupsBy fun b c => key b == key c).filter p =
      (l.filter p).eraseDupsBy fun b c => key b == key c
  | [] => rfl
  | a :: rest => by
    rw [List.eraseDupsBy_cons]
    cases ha : p a with
    | true =>
      rw [List.filter_cons_of_pos ha, List.filter_cons_of_pos ha, List.eraseDupsBy_cons,
        filter_eraseDupsBy hp, List.filter_filter, List.filter_filter]
      simp only [Bool.and_comm]
    | false =>
      have hrest : (rest.filter fun b => decide ((key b == key a) = false)).filter p = rest.filter p := by
        rw [List.filter_filter]
        refine List.filter_congr fun b _ => ?_
        by_cases hkey : key b = key a
        · rw [hp b a hkey, ha, Bool.false_and]
        · simp [hkey]
      rw [List.filter_cons_of_neg (by simp [ha]), List.filter_cons_of_neg (by simp [ha]),
        filter_eraseDupsBy hp, hrest]
termination_by l => l.length
decreasing_by
  all_goals exact Nat.lt_succ_of_le (List.length_filter_le _ _)

end Firsts

/-! ### Misses -/

/-- An entry that fails to resolve, with the URL of the file where it stands and what is said of it. -/
structure Miss where
  referrer : Url
  entry : Entry
  failure : Unresolved

namespace Miss

/-- What is reported of a miss. -/
def skip (miss : Miss) : Skip := ⟨miss.failure.specifier, miss.referrer, miss.failure.candidates⟩

/-- Whether a miss is passed over. -/
def Forgiven (deferred : List String) (miss : Miss) : Prop :=
  PackJob.Forgives deferred miss.entry miss.failure

instance (deferred : List String) (miss : Miss) : Decidable (miss.Forgiven deferred) :=
  inferInstanceAs (Decidable (PackJob.Forgives _ _ _))

/-- A miss that is reported under the specifier of its entry, unless that is empty, and never without a
specifier. -/
structure Named (miss : Miss) : Prop where
  reported : miss.failure.specifier ≠ ""
  own : miss.entry.specifier = miss.failure.specifier ∨ miss.entry.specifier = ""

/-- Putting a specifier aside forgives the misses that are reported under it, and no others. -/
theorem Named.forgiven_append_iff {miss : Miss} (h : miss.Named) {deferred : List String} {specifier : String}
    (hne : specifier ≠ "") : miss.Forgiven (deferred ++ [specifier]) ↔
      miss.Forgiven deferred ∨ miss.failure.specifier = specifier := by
  unfold Forgiven PackJob.Forgives
  simp only [List.mem_append, List.mem_singleton]
  constructor
  · rintro ((hmem | heq) | hmem | heq)
    · exact .inl (.inl hmem)
    · exact .inr heq
    · exact .inl (.inr hmem)
    · rcases h.own with hown | hown
      · exact .inr (hown ▸ heq)
      · exact absurd (heq.symm.trans hown) hne
  · rintro ((hmem | hmem) | heq)
    · exact .inl (.inl hmem)
    · exact .inr (.inl hmem)
    · exact .inl (.inr heq)

end Miss

namespace Tally

/-- The tally after some misses. -/
def meetAll (t : Tally) (misses : List Miss) : Tally :=
  misses.foldl (fun t miss => t.meet miss.referrer miss.entry miss.failure) t

theorem meetAll_append (t : Tally) (misses others : List Miss) :
    t.meetAll (misses ++ others) = (t.meetAll misses).meetAll others :=
  List.foldl_append

/-- The first of the misses for each specifier that are not forgiven at first. -/
def firstMisses (deferred : List String) (misses : List Miss) : List Skip :=
  ((misses.filter fun miss => ¬ miss.Forgiven deferred).map Miss.skip).eraseDupsBy
    fun s t => s.specifier == t.specifier

section FirstMisses

variable {deferred : List String} {miss : Miss} {rest : List Miss}

theorem firstMisses_cons_of_forgiven (h : miss.Forgiven deferred) :
    firstMisses deferred (miss :: rest) = firstMisses deferred rest := by
  rw [firstMisses, List.filter_cons_of_neg (by simpa using h), ← firstMisses]

/-- A miss that is not forgiven comes first, and then its specifier is forgiven. -/
theorem firstMisses_cons (h : ¬ miss.Forgiven deferred) (hmiss : miss.Named)
    (hrest : ∀ other ∈ rest, other.Named) : firstMisses deferred (miss :: rest) =
      miss.skip :: firstMisses (deferred ++ [miss.failure.specifier]) rest := by
  -- What keeps the first skip of a specifier drops the same misses that are forgiven from then on.
  have hfilter : rest.filter (fun other => ¬ other.Forgiven (deferred ++ [miss.failure.specifier])) =
      rest.filter fun other => ((fun s : Skip => decide ((s.specifier == miss.skip.specifier) = false)) ∘
        Miss.skip) other && decide (¬ other.Forgiven deferred) := by
    refine List.filter_congr fun other hother => ?_
    have hiff : other.Forgiven (deferred ++ [miss.failure.specifier]) ↔
        other.Forgiven deferred ∨ other.failure.specifier = miss.failure.specifier :=
      (hrest other hother).forgiven_append_iff hmiss.reported
    by_cases hspecifier : other.failure.specifier = miss.failure.specifier
    · simp [Miss.skip, hiff, hspecifier]
    · simp [Miss.skip, hiff, hspecifier]
  rw [firstMisses, firstMisses, List.filter_cons_of_pos (by simpa using h), List.map_cons,
    List.eraseDupsBy_cons, List.filter_map, List.filter_filter, hfilter]

end FirstMisses

/-- A specifier is among the first misses if some miss that is not forgiven is reported under it. -/
theorem mem_firstMisses_iff {deferred : List String} {misses : List Miss} {specifier : String} :
    specifier ∈ (firstMisses deferred misses).map (·.specifier) ↔
      ∃ miss ∈ misses, ¬ miss.Forgiven deferred ∧ miss.skip.specifier = specifier := by
  rw [firstMisses, mem_map_eraseDupsBy_iff, List.map_map, List.mem_map]
  simp only [List.mem_filter, decide_eq_true_eq, Function.comp_apply, and_assoc]

/-- Of some misses, the first one for each specifier is skipped, unless it is forgiven at first. -/
theorem skips_meetAll {misses : List Miss} (h : ∀ miss ∈ misses, miss.Named) (t : Tally) :
    (t.meetAll misses).skips = t.skips ++ firstMisses t.deferred misses := by
  induction misses generalizing t with
  | nil => exact (List.append_nil _).symm
  | cons miss rest ih =>
    have hrest : ∀ other ∈ rest, other.Named := fun other hother => h other (List.mem_cons_of_mem _ hother)
    rw [meetAll, List.foldl_cons, ← meetAll, ih hrest]
    by_cases hforgiven : miss.Forgiven t.deferred
    · rw [meet_of_forgives hforgiven, firstMisses_cons_of_forgiven hforgiven]
    · have hmeet : t.meet miss.referrer miss.entry miss.failure = t.putAside miss.referrer miss.failure :=
        if_neg hforgiven
      rw [hmeet, firstMisses_cons hforgiven (h miss List.mem_cons_self) hrest]
      exact List.append_assoc _ _ _

end Tally

namespace PackJob

variable {job : PackJob}

/-! ### What a sweep meets -/

/-- The misses among some entries of the source at a path. -/
def missesIn (job : PackJob) (path : String) (entries : List Entry) : List Miss :=
  entries.filterMap fun entry =>
    match job.verdict path entry with
    | .failed failure => some ⟨job.store.url path, entry, failure⟩
    | _ => none

/-- The misses of the source at a path. -/
def sourceMisses (job : PackJob) (path : String) : List Miss :=
  job.missesIn path (job.sourceEntries path)

theorem mem_missesIn {path : String} {entries : List Entry} {miss : Miss} :
    miss ∈ job.missesIn path entries ↔ miss.entry ∈ entries ∧
      job.verdict path miss.entry = .failed miss.failure ∧ miss.referrer = job.store.url path := by
  unfold missesIn
  rw [List.mem_filterMap]
  constructor
  · rintro ⟨entry, hentry, h⟩
    split at h
    · rename_i hverdict
      cases h
      exact ⟨hentry, hverdict, rfl⟩
    · cases h
  · rintro ⟨hentry, hverdict, hreferrer⟩
    refine ⟨miss.entry, hentry, ?_⟩
    rw [hverdict, ← hreferrer]

/-- Sources that leave out none of the queued ones, and with each of them none of those to which its links lead,
unless it was visited before. -/
structure Exhausts (job : PackJob) (visited queue paths : List String) : Prop where
  queued : ∀ p ∈ queue, p ∈ visited ∨ p ∈ paths
  linked : ∀ p ∈ paths, ∀ link ∈ job.sourceLinks p, link.1.isLeaf = false →
    link.2.pathname ∈ visited ∨ link.2.pathname ∈ paths

namespace Exhausts

variable {path : String} {visited rest paths : List String}

theorem nil : job.Exhausts visited [] [] := ⟨by simp, by simp⟩

/-- A path that was visited need not be gone through again. -/
theorem skip (h : job.Exhausts visited rest paths) (hvisited : path ∈ visited) :
    job.Exhausts visited (path :: rest) paths := by
  refine ⟨fun p hp => ?_, h.linked⟩
  rcases List.mem_cons.1 hp with rfl | hp
  · exact .inl hvisited
  · exact h.queued p hp

/-- A source that is gone through first. -/
theorem visit (h : job.Exhausts (path :: visited) (rest ++ nextOf (path :: visited) (job.sourceLinks path)) paths) :
    job.Exhausts visited (path :: rest) (path :: paths) := by
  have hfirst : ∀ p, p ∈ path :: visited ∨ p ∈ paths → p ∈ visited ∨ p ∈ path :: paths := by
    rintro p (hp | hp)
    · rcases List.mem_cons.1 hp with rfl | hp
      · exact .inr List.mem_cons_self
      · exact .inl hp
    · exact .inr (List.mem_cons_of_mem _ hp)
  constructor
  · intro p hp
    rcases List.mem_cons.1 hp with rfl | hp
    · exact .inr List.mem_cons_self
    · exact hfirst p (h.queued p (List.mem_append_left _ hp))
  · intro p hp link hlink hleaf
    rcases List.mem_cons.1 hp with rfl | hp
    · -- What the source leads to was visited before, or it is queued now.
      by_cases hvisited : link.2.pathname ∈ p :: visited
      · exact hfirst _ (.inl hvisited)
      · refine hfirst _ (h.queued _ (List.mem_append_right _ ?_))
        exact mem_nextOf.2 ⟨hvisited, link, hlink, hleaf, rfl⟩
    · exact hfirst _ (h.linked p hp link hlink hleaf)

/-- Sources that leave out nothing from the beginning are all that the program loads. -/
theorem mem_of_loads {root : String} (h : job.Exhausts [] [root] paths) {p : String} (hload : job.Loads root p) :
    p ∈ paths := by
  induction hload with
  | root => exact (h.queued root List.mem_cons_self).resolve_left List.not_mem_nil
  | step _ hentry hbuiltin hanswer hleaf ih =>
    have hlink := mem_sourceLinks.2 ⟨hentry, hbuiltin, hanswer⟩
    exact (h.linked _ ih _ hlink hleaf).resolve_left List.not_mem_nil

end Exhausts

/-- A sweep over a source that is no text ends there. -/
theorem sweepVisit_error {path : String} {cause : Fault} (hsource : job.source? path = .error cause)
    (visited : List String) (tally : Tally) (pack : Packed) :
    job.sweepVisit visited path tally pack = ⟨tally, .error cause⟩ := by
  rw [sweepVisit, hsource]

section Sweep

variable (hjob : job.Honest) (hanswers : ∀ path entry cause, job.verdict path entry ≠ .fault cause)

include hjob hanswers

/-- A sweep over entries follows those that lead to files, and meets those that fail. -/
theorem sweepEntries_eq (visited : List String) (path : String) (entries : List Entry) (tally : Tally)
    (pack : Packed) (queued : List String) :
    job.sweepEntries visited path entries tally pack queued =
      ⟨tally.meetAll (job.missesIn path entries), .ok (job.extend path pack (job.leads path entries),
        queued ++ nextOf visited (job.leads path entries))⟩ := by
  induction entries generalizing tally pack queued with
  | nil => simp [sweepEntries, missesIn, Tally.meetAll, leads, extend, nextOf]
  | cons entry rest ih =>
    rw [sweepEntries, missesIn, leads, List.filterMap_cons, List.filterMap_cons]
    cases hverdict : job.verdict path entry with
    | builtin => exact ih _ _ _
    | fault cause => exact absurd hverdict (hanswers path entry cause)
    | failed failure => exact ih _ _ _
    | found url =>
      dsimp only
      rw [hjob.addFile_eq hverdict]
      dsimp only
      rw [ih, List.append_assoc]
      rfl

/-- A sweep over a source that is a text follows its links and meets its misses. -/
theorem sweepVisit_eq (visited : List String) {path : String} {text? : Option String}
    (hsource : job.source? path = .ok text?) (tally : Tally) (pack : Packed) :
    job.sweepVisit visited path tally pack =
      ⟨tally.meetAll (job.sourceMisses path), .ok (job.extend path pack (job.sourceLinks path),
        nextOf visited (job.sourceLinks path))⟩ := by
  rw [sweepVisit, sourceMisses, sourceLinks, sourceEntries, hsource]
  cases text? with
  | none => rfl
  | some text =>
    dsimp only
    rw [sweepEntries_eq hjob hanswers, List.nil_append]

/-- A sweep over queued sources that the program loads finds the same and meets the same misses, whatever is put
aside.  It goes through sources that the program loads, and if it comes to its end, it leaves out none of those
that it finds on its way. -/
theorem exists_sweepWalk_eq {root : String} {visited : List String} {pack : Packed} {queue : List String}
    {hqueue : ∀ path ∈ queue, path ∈ root :: job.reachable} (hloads : ∀ path ∈ queue, job.Loads root path) :
    ∃ (paths : List String) (outcome : Except Fault Packed), (∀ path ∈ paths, job.Loads root path) ∧
      (∀ result, outcome = .ok result → job.Exhausts visited queue paths) ∧
      ∀ tally : Tally, job.sweepWalk root visited tally pack queue hqueue =
        ⟨tally.meetAll (paths.flatMap job.sourceMisses), outcome⟩ := by
  -- The tally is not looked at, so the induction may go along the sweep with any of them.
  fun_induction sweepWalk job root visited ⟨[], []⟩ pack queue hqueue with
  | case1 visited tally pack => exact ⟨[], .ok pack, by simp, fun _ _ => .nil, fun tally => sweepWalk_nil _⟩
  | case2 visited tally pack path rest hqueue hvisited _ ih =>
    obtain ⟨paths, outcome, hpaths, hexhausts, heq⟩ := ih fun p hp => hloads p (List.mem_cons_of_mem _ hp)
    refine ⟨paths, outcome, hpaths, fun result h => (hexhausts result h).skip hvisited, fun tally => ?_⟩
    rw [sweepWalk_visited hvisited]
    exact heq tally
  | case3 visited tally pack path rest hqueue hnew visit cause hcause =>
    cases hsource : job.source? path with
    | error cause' =>
      exact ⟨[], .error cause', by simp, (fun _ h => by cases h),
        fun tally => sweepWalk_error hnew (sweepVisit_error hsource _ _ _) _⟩
    | ok text? =>
      have hvisit := sweepVisit_eq hjob hanswers (path :: visited) hsource tally pack
      cases hcause.symm.trans (congrArg Swept.outcome hvisit)
  | case4 visited tally pack path rest hqueue hnew visit pack' queued hok _ ih =>
    have hload : job.Loads root path := hloads path List.mem_cons_self
    cases hsource : job.source? path with
    | error cause =>
      have hvisit := sweepVisit_error hsource (path :: visited) tally pack
      cases hok.symm.trans (congrArg Swept.outcome hvisit)
    | ok text? =>
      have hvisit := sweepVisit_eq hjob hanswers (path :: visited) hsource
      cases hok.symm.trans (congrArg Swept.outcome (hvisit tally pack))
      have hqueued : ∀ p ∈ rest ++ nextOf (path :: visited) (job.sourceLinks path), job.Loads root p := by
        intro p hp
        rcases List.mem_append.1 hp with hp | hp
        · exact hloads p (List.mem_cons_of_mem _ hp)
        · obtain ⟨-, link, hlink, hleaf, rfl⟩ := mem_nextOf.1 hp
          exact hload.of_link hlink hleaf
      obtain ⟨paths, outcome, hpaths, hexhausts, heq⟩ := ih hqueued
      refine ⟨path :: paths, outcome, ?_, fun result h => (hexhausts result h).visit, fun tally => ?_⟩
      · rintro p (_ | ⟨_, hp⟩)
        · exact hload
        · exact hpaths p hp
      · have hqueue' := mem_queue_of_sweepVisit (hvisit tally pack) hqueue
        rw [sweepWalk_ok hnew (hvisit tally pack) hqueue hqueue', heq, List.flatMap_cons,
          Tally.meetAll_append]

/-- A sweep finds the same and meets the same misses, whatever is put aside.  It goes through sources that the
program loads, and through all of them if it comes to its end. -/
theorem exists_sweep_eq (entrypoint : String) :
    ∃ (paths : List String) (outcome : Except Fault Packed),
      (∀ path ∈ paths, job.Loads (Path.normalize entrypoint) path) ∧
      (∀ pack, outcome = .ok pack → ∀ path, job.Loads (Path.normalize entrypoint) path → path ∈ paths) ∧
      ∀ tally : Tally, job.sweep entrypoint tally =
        ⟨tally.meetAll (paths.flatMap job.sourceMisses), outcome⟩ := by
  have hroot : ∀ path ∈ [Path.normalize entrypoint], job.Loads (Path.normalize entrypoint) path := by
    intro path hpath
    rw [List.mem_singleton.1 hpath]
    exact .root
  cases hread : job.store.read (Path.normalize entrypoint) with
  | error cause =>
    refine ⟨[], .error cause, by simp, (fun _ h => by cases h), fun tally => ?_⟩
    rw [sweep, hread]
    rfl
  | ok content? =>
    cases content? with
    | none =>
      refine ⟨[], .error (.unresolved entrypoint none [(job.store.url (Path.normalize entrypoint)).href]),
        by simp, (fun _ h => by cases h), fun tally => ?_⟩
      rw [sweep, hread]
      rfl
    | some content =>
      obtain ⟨paths, outcome, hpaths, hexhausts, heq⟩ := exists_sweepWalk_eq hjob hanswers hroot
      refine ⟨paths, outcome, hpaths, fun pack h path hload => (hexhausts pack h).mem_of_loads hload, fun tally => ?_⟩
      rw [sweep, hread]
      exact heq tally

end Sweep

/-! ### The misses of the standard resolver -/

/-- The standard resolver reports a miss under the specifier that it has looked for. -/
theorem specifier_sourceMisses {store : Store} (hs : store.Closed) {lexer : Lexer}
    {builtins targets deferred : List String}
    (htargets : ∀ target ∈ targets, (Target.parse? target).isSome) {path : String} {miss : Miss}
    (h : miss ∈ (standard store lexer builtins targets deferred).sourceMisses path) :
    miss.failure.specifier = Plan.specifierOf miss.entry := by
  obtain ⟨conditions, hconditions⟩ := exists_buildConditions htargets
  obtain ⟨-, hverdict, -⟩ := mem_missesIn.1 h
  have hanswer := (verdict_eq_failed_iff.1 hverdict).2
  rw [answer, standard, Resolver.outcome_standard hs _ _ hconditions, Except.ok.injEq] at hanswer
  exact (Resolution.firstOf_eq_unresolved hanswer).1

/-- The standard resolver reports a miss under the specifier of its entry, or under `.` if that is empty.
-/
theorem named_sourceMisses {store : Store} (hs : store.Closed) {builtins targets deferred : List String}
    (htargets : ∀ target ∈ targets, (Target.parse? target).isSome) {path : String} {miss : Miss}
    (h : miss ∈ (standard store Source.entries builtins targets deferred).sourceMisses path) : miss.Named := by
  have hspecifier := specifier_sourceMisses hs htargets h
  obtain ⟨hentry, -, -⟩ := mem_missesIn.1 h
  unfold Plan.specifierOf at hspecifier
  split at hspecifier
  · rename_i hempty
    exact ⟨hspecifier ▸ by decide, .inr hempty.2⟩
  · rename_i hown
    refine ⟨hspecifier ▸ ?_, .inl hspecifier.symm⟩
    -- Only an addon may be without a specifier, and this is none or has one.
    cases haddon : miss.entry.isAddon with
    | true => exact fun hempty => hown ⟨haddon, hempty⟩
    | false =>
      unfold sourceEntries at hentry
      split at hentry
      · exact Source.specifier_ne_empty hentry haddon
      · cases hentry

end PackJob

end ModuleReach
