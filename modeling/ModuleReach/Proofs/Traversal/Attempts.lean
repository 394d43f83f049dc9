import Mathlib.Data.Finset.Card
import Mathlib.Data.Finset.Dedup
import ModuleReach.Proofs.Traversal.SinglePass

/-!
# Attempt after attempt

A task knows nothing of what makes its packs.  The answer to an attempt may depend on all earlier attempts, so any
sequence of answers can occur.  Whatever the answers are, they alone decide what the next attempt is made with, and
whether there is one.  An attempt after some skips is made with the specifiers that were put aside from the start,
followed by the skipped ones in order.  No specifier is skipped twice, so a task ends if its answers name finitely many.

## Main definitions

* `Task.after` — the task that has made given skips.
* `Task.attemptAt?` — a task as it is before one of its attempts, if it gets there.
* `Task.Skipped` — that the answers so far have led to given skips.
* `Task.Ends` — the answers that end a task, and how; `Task.EndsAfter` — that a task ends after given skips.

## Main results

* `Task.attempt_cases` — an attempt ends the task, or adds one fresh skip.
* `Task.attemptAt?_eq_some_iff` — what each attempt is made with.
* `Task.Skipped.length_le` — there are no more skips than specifiers that the answers name.
* `Task.exists_settle` — the attempts of a task that is settled.
* `Task.retries` — all of this for one entrypoint.
-/

namespace ModuleReach

/-- The answer that leads to a skip. -/
def Skip.cause (skip : Skip) : PackOutcome :=
  .unresolved ⟨skip.specifier, some skip.referrer, skip.candidates⟩

namespace Task

/-! ### One attempt -/

section Attempt

variable {pack : Packing} {t t' : Task}

/-- The answer to the next attempt of a task. -/
def reply (pack : Packing) (t : Task) : Except Fault PackOutcome :=
  (pack t.entrypoint t.earlier t.deferred).outcome

/-- The answers that end a task, each with the end to which it leads. -/
inductive Ends (t : Task) : Except Fault PackOutcome → Except Fault EntrypointResult → Prop
  /-- The pack is complete. -/
  | packed (pack : Packed) :
    Ends t (.ok (.packed pack)) (.ok ⟨t.entrypoint, pack.files.keys, t.skips, pack.resolutions⟩)
  /-- Making the pack ended in a fault. -/
  | failed (cause : Fault) : Ends t (.error cause) (.error cause)
  /-- The file to start from is missing. -/
  | missing (specifier : String) (candidates : List String) :
    Ends t (.ok (.unresolved ⟨specifier, none, candidates⟩)) (.error (.unresolved specifier none candidates))
  /-- Making the pack stopped at a specifier that had been put aside. -/
  | repeated {specifier : String} (referrer : Url) (candidates : List String)
    (aside : specifier ∈ t.deferred) :
    Ends t (.ok (.unresolved ⟨specifier, some referrer, candidates⟩))
      (.error (.repeatedStop specifier referrer.href))

/-- An answer that leads to a skip ends no task, unless its specifier had been put aside. -/
theorem Ends.mem_deferred {skip : Skip} {outcome : Except Fault EntrypointResult}
    (h : Ends t (.ok skip.cause) outcome) : skip.specifier ∈ t.deferred := by
  rw [Skip.cause] at h
  cases h
  assumption

/-- Every answer ends a task, or leads to a skip of a specifier that had not been put aside. -/
theorem ends_or_cause (t : Task) (answer : Except Fault PackOutcome) :
    (∃ outcome, Ends t answer outcome) ∨ ∃ skip : Skip, answer = .ok skip.cause ∧ skip.specifier ∉ t.deferred := by
  match answer with
  | .error cause => exact .inl ⟨_, .failed cause⟩
  | .ok (.packed pack) => exact .inl ⟨_, .packed pack⟩
  | .ok (.unresolved ⟨specifier, none, candidates⟩) => exact .inl ⟨_, .missing specifier candidates⟩
  | .ok (.unresolved ⟨specifier, some referrer, candidates⟩) =>
    by_cases haside : specifier ∈ t.deferred
    · exact .inl ⟨_, .repeated referrer candidates haside⟩
    · exact .inr ⟨⟨specifier, referrer, candidates⟩, rfl, haside⟩

/-- An attempt to which the answer ends the task ends it in the same way. -/
theorem Ends.outcome_attempt {outcome : Except Fault EntrypointResult} (h : Ends t (t.reply pack) outcome) :
    (t.attempt pack).outcome = outcome.map .done := by
  have hattempt : (t.attempt pack).outcome = (t.reply pack).bind fun answer => (t.handle answer).outcome :=
    Task.outcome_attempt pack t
  rw [hattempt]
  generalize t.reply pack = answer at h
  cases h with
  | packed pack => rfl
  | failed cause => rfl
  | missing specifier candidates => rfl
  | repeated referrer candidates haside =>
    rw [Except.bind, handle, if_pos haside]
    rfl

/-- An attempt that stopped at a specifier which had not been put aside leaves a task that needs another one. -/
theorem outcome_attempt_of_cause {skip : Skip} (hreply : t.reply pack = .ok skip.cause)
    (hfresh : skip.specifier ∉ t.deferred) :
    (t.attempt pack).outcome = .ok (.again (t.putAside skip.specifier skip.referrer skip.candidates)) := by
  have hattempt : (t.attempt pack).outcome = (t.reply pack).bind fun answer => (t.handle answer).outcome :=
    outcome_attempt pack t
  rw [hattempt, hreply, Except.bind, Skip.cause, handle, if_neg hfresh]

/-- An attempt ends its task, or it adds one fresh skip. -/
theorem attempt_cases (pack : Packing) (t : Task) :
    (∃ outcome, Ends t (t.reply pack) outcome ∧ (t.attempt pack).outcome = outcome.map .done) ∨
      ∃ skip : Skip, t.reply pack = .ok skip.cause ∧ skip.specifier ∉ t.deferred ∧
        (t.attempt pack).outcome =
          .ok (.again (t.putAside skip.specifier skip.referrer skip.candidates)) := by
  rcases ends_or_cause t (t.reply pack) with ⟨outcome, hends⟩ | ⟨skip, hreply, hfresh⟩
  · exact .inl ⟨outcome, hends, hends.outcome_attempt⟩
  · exact .inr ⟨skip, hreply, hfresh, outcome_attempt_of_cause hreply hfresh⟩

/-- An attempt ends its task exactly if the answer to it does, and in the same way. -/
theorem outcome_attempt_eq_done_iff {outcome : Except Fault EntrypointResult} :
    (t.attempt pack).outcome = outcome.map .done ↔ Ends t (t.reply pack) outcome := by
  refine ⟨fun h => ?_, Ends.outcome_attempt⟩
  rcases attempt_cases pack t with ⟨other, hends, hother⟩ | ⟨skip, -, -, hagain⟩
  · have hsame : other = outcome := by
      have hmap := hother.symm.trans h
      cases other <;> cases outcome <;> cases hmap <;> rfl
    exact hsame ▸ hends
  · cases outcome <;> cases hagain.symm.trans h

/-- The task before the next attempt, if an attempt leaves one. -/
def next? (pack : Packing) (t : Task) : Option Task :=
  match (t.attempt pack).outcome with
  | .ok (.again t') => some t'
  | _ => none

theorem next?_eq_some_iff :
    t.next? pack = some t' ↔ ∃ skip : Skip, t.reply pack = .ok skip.cause ∧ skip.specifier ∉ t.deferred ∧
      t' = t.putAside skip.specifier skip.referrer skip.candidates := by
  constructor
  · intro hnext
    rw [next?] at hnext
    rcases attempt_cases pack t with ⟨outcome, -, hattempt⟩ | ⟨skip, hreply, hfresh, hattempt⟩
    · rw [hattempt] at hnext
      cases outcome <;> cases hnext
    · rw [hattempt] at hnext
      cases hnext
      exact ⟨skip, hreply, hfresh, rfl⟩
  · rintro ⟨skip, hreply, hfresh, rfl⟩
    rw [next?, outcome_attempt_of_cause hreply hfresh]

/-- There is no next attempt exactly if the answer to an attempt ends its task. -/
theorem next?_eq_none_iff : t.next? pack = none ↔ ∃ outcome, Ends t (t.reply pack) outcome := by
  constructor
  · intro hnone
    refine (ends_or_cause t (t.reply pack)).resolve_right ?_
    rintro ⟨skip, hreply, hfresh⟩
    cases hnone.symm.trans (next?_eq_some_iff.2 ⟨skip, hreply, hfresh, rfl⟩)
  · rintro ⟨outcome, hends⟩
    rw [Option.eq_none_iff_forall_ne_some]
    intro t' hsome
    obtain ⟨skip, hreply, hfresh, -⟩ := next?_eq_some_iff.1 hsome
    rw [hreply] at hends
    exact hfresh hends.mem_deferred

end Attempt

/-! ### What was skipped -/

/-- The specifiers that are put aside after some skips. -/
def aside (seed : List String) (skips : List Skip) : List String := seed ++ skips.map (·.specifier)

theorem aside_append (seed : List String) (skips : List Skip) (skip : Skip) :
    aside seed (skips ++ [skip]) = aside seed skips ++ [skip.specifier] := by
  simp [aside]

/-- The task that has made some skips. -/
def after (entrypoint : String) (seed : List String) (skips : List Skip) : Task where
  entrypoint := entrypoint
  earlier := (List.range skips.length).map fun k => aside seed (skips.take k)
  deferred := aside seed skips
  skips := skips

theorem after_nil (entrypoint : String) (seed : List String) :
    after entrypoint seed [] = start entrypoint seed := by
  simp [after, start, aside]

theorem after_append (entrypoint : String) (seed : List String) (skips : List Skip) (skip : Skip) :
    after entrypoint seed (skips ++ [skip]) =
      (after entrypoint seed skips).putAside skip.specifier skip.referrer skip.candidates := by
  -- The new skip comes after all attempts before, so what they were made with stays as it was.
  have hearlier : ∀ k ∈ List.range skips.length,
      aside seed ((skips ++ [skip]).take k) = aside seed (skips.take k) := by
    intro k hk
    rw [List.take_append_of_le_length (List.mem_range.1 hk).le]
  have hlast : (skips ++ [skip]).take skips.length = skips := List.take_left
  rw [after, putAside, after]
  simp only [List.length_append, List.length_singleton, List.range_succ, List.map_append, List.map_singleton,
    List.map_congr_left hearlier, hlast, aside_append]

/-- That a task, as far as it has come, has made some skips: it got the answers that lead to them, and each
of their specifiers was fresh. -/
inductive Skipped (pack : Packing) (entrypoint : String) (seed : List String) : List Skip → Prop
  | start : Skipped pack entrypoint seed []
  | skip {skips : List Skip} {skip : Skip} (before : Skipped pack entrypoint seed skips)
    (answer : (after entrypoint seed skips).reply pack = .ok skip.cause)
    (fresh : skip.specifier ∉ aside seed skips) : Skipped pack entrypoint seed (skips ++ [skip])

/-- The specifiers at which a packing can stop from an entrypoint are among the given ones. -/
def StopsWithin (pack : Packing) (entrypoint : String) (specifiers : Finset String) : Prop :=
  ∀ earlier deferred failure, (pack entrypoint earlier deferred).outcome = .ok (.unresolved failure) →
    failure.referrer.isSome → failure.specifier ∈ specifiers

namespace Skipped

variable {pack : Packing} {entrypoint : String} {seed : List String} {skips : List Skip}

/-- Nothing is skipped that was put aside from the start. -/
theorem notMem_seed (h : Skipped pack entrypoint seed skips) : ∀ skip ∈ skips, skip.specifier ∉ seed := by
  induction h with
  | start => simp
  | @skip skips last _ _ hfresh ih =>
    intro skip hskip
    rcases List.mem_append.1 hskip with hbefore | hlast
    · exact ih skip hbefore
    · rw [List.mem_singleton.1 hlast]
      intro hseed
      exact hfresh (List.mem_append_left _ hseed)

/-- No specifier is skipped twice. -/
theorem nodup (h : Skipped pack entrypoint seed skips) : (skips.map (·.specifier)).Nodup := by
  induction h with
  | start => exact List.nodup_nil
  | @skip skips last _ _ hfresh ih =>
    have hlast : last.specifier ∉ skips.map (·.specifier) := fun hmem =>
      hfresh (List.mem_append_right _ hmem)
    rw [List.map_append, List.map_singleton, ← List.concat_eq_append]
    exact ih.concat hlast

/-- Each skip comes from an answer that names its specifier. -/
theorem mem_of_stopsWithin (h : Skipped pack entrypoint seed skips) {specifiers : Finset String}
    (hwithin : StopsWithin pack entrypoint specifiers) : ∀ skip ∈ skips, skip.specifier ∈ specifiers := by
  induction h with
  | start => simp
  | skip _ hanswer _ ih =>
    intro skip hskip
    rcases List.mem_append.1 hskip with hbefore | hlast
    · exact ih skip hbefore
    · rw [List.mem_singleton.1 hlast]
      exact hwithin _ _ _ hanswer rfl

/-- There are no more skips than specifiers that the answers name. -/
theorem length_le (h : Skipped pack entrypoint seed skips) {specifiers : Finset String}
    (hwithin : StopsWithin pack entrypoint specifiers) : skips.length ≤ specifiers.card := by
  have hsub : (skips.map (·.specifier)).toFinset ⊆ specifiers := by
    intro specifier hmem
    obtain ⟨skip, hskip, rfl⟩ := List.mem_map.1 (List.mem_toFinset.1 hmem)
    exact h.mem_of_stopsWithin hwithin skip hskip
  calc skips.length = (skips.map (·.specifier)).length := by rw [List.length_map]
    _ = (skips.map (·.specifier)).toFinset.card := (List.toFinset_card_of_nodup h.nodup).symm
    _ ≤ specifiers.card := Finset.card_le_card hsub

/-- A task that has come so far ends with the next attempt, or makes one more skip. -/
theorem ends_or_skips (h : Skipped pack entrypoint seed skips) :
    (∃ outcome, Ends (after entrypoint seed skips) ((after entrypoint seed skips).reply pack) outcome) ∨
      ∃ skip, Skipped pack entrypoint seed (skips ++ [skip]) := by
  refine (ends_or_cause (after entrypoint seed skips) _).imp_right ?_
  rintro ⟨skip, hreply, hfresh⟩
  exact ⟨skip, h.skip hreply hfresh⟩

end Skipped

/-- That a task ends with the answer to the attempt after some skips, and how. -/
def EndsAfter (pack : Packing) (entrypoint : String) (seed : List String) (skips : List Skip)
    (outcome : Except Fault EntrypointResult) : Prop :=
  Skipped pack entrypoint seed skips ∧
    Ends (after entrypoint seed skips) ((after entrypoint seed skips).reply pack) outcome

/-- A task whose answers name finitely many specifiers ends. -/
theorem exists_endsAfter {pack : Packing} {entrypoint : String} {seed : List String} {specifiers : Finset String}
    (hwithin : StopsWithin pack entrypoint specifiers) :
    ∃ skips outcome, EndsAfter pack entrypoint seed skips outcome := by
  by_contra hgoes
  -- Otherwise there would be arbitrarily many skips.
  have hskips : ∀ n, ∃ skips, Skipped pack entrypoint seed skips ∧ skips.length = n := by
    intro n
    induction n with
    | zero => exact ⟨[], .start, rfl⟩
    | succ n ih =>
      obtain ⟨skips, h, hlength⟩ := ih
      rcases h.ends_or_skips with ⟨outcome, hends⟩ | ⟨skip, hskip⟩
      · exact absurd ⟨skips, outcome, h, hends⟩ hgoes
      · refine ⟨skips ++ [skip], hskip, ?_⟩
        rw [List.length_append, List.length_singleton, hlength]
  obtain ⟨skips, h, hlength⟩ := hskips (specifiers.card + 1)
  have hle := h.length_le hwithin
  omega

/-! ### All attempts -/

/-- A task as it is when it has made a number of attempts and needs another one. -/
def attemptAt? (pack : Packing) (t : Task) : Nat → Option Task
  | 0 => some t
  | k + 1 => (attemptAt? pack t k).bind (next? pack)

/-- A task comes to an attempt exactly by one skip for each attempt before, and these decide what it is made with. -/
theorem attemptAt?_eq_some_iff {pack : Packing} {entrypoint : String} {seed : List String} {k : Nat} {t : Task} :
    attemptAt? pack (start entrypoint seed) k = some t ↔
      ∃ skips, Skipped pack entrypoint seed skips ∧ skips.length = k ∧ t = after entrypoint seed skips := by
  -- The induction is on the number of attempts: the last skip of a longer list is the one that the last attempt made.
  induction k generalizing t with
  | zero =>
    rw [attemptAt?, Option.some.injEq]
    constructor
    · rintro rfl
      exact ⟨[], .start, rfl, (after_nil entrypoint seed).symm⟩
    · rintro ⟨skips, -, hlength, rfl⟩
      rw [List.length_eq_zero_iff.1 hlength, after_nil]
  | succ k ih =>
    rw [attemptAt?, Option.bind_eq_some_iff]
    constructor
    · rintro ⟨t', ht', hnext⟩
      obtain ⟨skips, hskips, hlength, rfl⟩ := ih.1 ht'
      obtain ⟨skip, hreply, hfresh, rfl⟩ := next?_eq_some_iff.1 hnext
      refine ⟨skips ++ [skip], hskips.skip hreply hfresh, ?_, (after_append ..).symm⟩
      rw [List.length_append, List.length_singleton, hlength]
    · rintro ⟨skips, hskips, hlength, rfl⟩
      cases hskips with
      | start => cases hlength
      | @skip before skip hbefore hreply hfresh =>
        rw [List.length_append, List.length_singleton, Nat.add_right_cancel_iff] at hlength
        refine ⟨after entrypoint seed before, ih.2 ⟨before, hbefore, hlength, rfl⟩, ?_⟩
        exact next?_eq_some_iff.2 ⟨skip, hreply, hfresh, after_append ..⟩

/-- A settled task has made some skips, and the answer to the attempt after them has ended it. -/
theorem exists_settle (packer : Packer) (entrypoint : String) (seed : List String) :
    let settled := (start entrypoint seed).settle packer
    ∃ skips, settled.task = after entrypoint seed skips ∧
      EndsAfter packer.pack entrypoint seed skips settled.outcome := by
  -- The induction starts from any task that is reached.
  have hall : ∀ t skips, Skipped packer.pack entrypoint seed skips → t = after entrypoint seed skips →
      ∃ skips, (t.settle packer).task = after entrypoint seed skips ∧
        EndsAfter packer.pack entrypoint seed skips (t.settle packer).outcome := by
    intro t
    fun_induction settle packer t with
    | case1 t attempt cause hattempt =>
      rintro skips hskips rfl
      have hends : ((after entrypoint seed skips).attempt packer.pack).outcome =
          (Except.error cause : Except Fault _).map .done := hattempt
      exact ⟨skips, rfl, hskips, outcome_attempt_eq_done_iff.1 hends⟩
    | case2 t attempt result hattempt =>
      rintro skips hskips rfl
      have hends : ((after entrypoint seed skips).attempt packer.pack).outcome =
          (Except.ok result : Except Fault _).map .done := hattempt
      exact ⟨skips, rfl, hskips, outcome_attempt_eq_done_iff.1 hends⟩
    | case3 t attempt t' hattempt settled ih =>
      rintro skips hskips rfl
      have hnext : (after entrypoint seed skips).next? packer.pack = some t' := by
        have hagain : ((after entrypoint seed skips).attempt packer.pack).outcome = .ok (.again t') := hattempt
        rw [next?, hagain]
      obtain ⟨skip, hreply, hfresh, ht'⟩ := next?_eq_some_iff.1 hnext
      exact ih (skips ++ [skip]) (hskips.skip hreply hfresh) (ht'.trans (after_append ..).symm)
  exact hall _ [] .start (after_nil entrypoint seed).symm

/-- The calls of a task that has made some skips: the first one with what was put aside from the start, and one more
after each skip. -/
theorem calls_after {settled : Settled} {entrypoint : String} {seed : List String} {skips : List Skip}
    (h : settled.task = after entrypoint seed skips) :
    settled.calls = (List.range (skips.length + 1)).map fun k => aside seed (skips.take k) := by
  rw [Settled.calls, h, List.range_succ, List.map_append, List.map_singleton, List.take_length]
  rfl

/-- **Retrying is orderly, whatever makes the packs.**

The attempt after `k` others is made exactly if `k` answers have led to `k` skips, and it is made with what was
put aside from the start followed by the skipped specifiers in order.  These are distinct, and none of them was put
aside from the start.  The task ends with the first answer that is a pack, a fault, a missing file to start from or a
stop at what had been put aside.  Its end is the one that `Ends` gives for this answer, and there is no attempt after it.

If the answers name only specifiers from a finite set, the task ends, and it makes at most one attempt more
than the set has elements.  A packer settles the task with just these attempts. -/
theorem retries (pack : Packing) (entrypoint : String) (seed : List String) :
    (∀ k t, attemptAt? pack (start entrypoint seed) k = some t ↔
      ∃ skips, Skipped pack entrypoint seed skips ∧ skips.length = k ∧ t = after entrypoint seed skips) ∧
    (∀ skips, Skipped pack entrypoint seed skips →
      (skips.map (·.specifier)).Nodup ∧ (∀ skip ∈ skips, skip.specifier ∉ seed) ∧
      (∀ outcome, ((after entrypoint seed skips).attempt pack).outcome = outcome.map .done ↔
        EndsAfter pack entrypoint seed skips outcome) ∧
      (attemptAt? pack (start entrypoint seed) (skips.length + 1) = none ↔
        ∃ outcome, EndsAfter pack entrypoint seed skips outcome)) ∧
    (∀ specifiers : Finset String, StopsWithin pack entrypoint specifiers →
      attemptAt? pack (start entrypoint seed) (specifiers.card + 1) = none ∧
      ∃ skips outcome, EndsAfter pack entrypoint seed skips outcome) ∧
    ∀ packer : Packer, packer.pack = pack →
      let settled := (start entrypoint seed).settle packer
      ∃ skips, EndsAfter pack entrypoint seed skips settled.outcome ∧ settled.task.skips = skips ∧
        settled.calls = (List.range (skips.length + 1)).map (fun k => aside seed (skips.take k)) ∧
        ∀ specifiers : Finset String, StopsWithin pack entrypoint specifiers →
          settled.calls.length ≤ specifiers.card + 1 := by
  refine ⟨fun k t => attemptAt?_eq_some_iff, ?_, ?_, ?_⟩
  · intro skips hskips
    have hhere : attemptAt? pack (start entrypoint seed) skips.length = some (after entrypoint seed skips) :=
      attemptAt?_eq_some_iff.2 ⟨skips, hskips, rfl, rfl⟩
    have hafter : ∀ outcome, EndsAfter pack entrypoint seed skips outcome ↔
        Ends (after entrypoint seed skips) ((after entrypoint seed skips).reply pack) outcome :=
      fun outcome => and_iff_right hskips
    refine ⟨hskips.nodup, hskips.notMem_seed, ?_, ?_⟩
    · intro outcome
      rw [hafter]
      exact outcome_attempt_eq_done_iff
    · simp only [hafter]
      rw [attemptAt?, hhere, Option.bind_some]
      exact next?_eq_none_iff
  · intro specifiers hwithin
    refine ⟨?_, exists_endsAfter hwithin⟩
    rw [Option.eq_none_iff_forall_ne_some]
    intro t ht
    obtain ⟨skips, hskips, hlength, -⟩ := attemptAt?_eq_some_iff.1 ht
    have hle := hskips.length_le hwithin
    omega
  · rintro packer rfl settled
    obtain ⟨skips, htask, hends⟩ := exists_settle packer entrypoint seed
    have hcalls := calls_after htask
    refine ⟨skips, hends, congrArg Task.skips htask, hcalls, ?_⟩
    intro specifiers hwithin
    have hle := hends.1.length_le hwithin
    rw [hcalls, List.length_map, List.length_range]
    omega

/-- Two attempts are enough for whatever always stops at one specifier. -/
theorem retries_stuck :
    let stuck : Packing := fun _ _ _ => pure (.unresolved ⟨"./x.js", some (.ofPath "memory" "/index.js"), []⟩)
    StopsWithin stuck "/index.js" {"./x.js"} ∧ attemptAt? stuck (start "/index.js" []) 2 = none := by
  intro stuck
  have hwithin : StopsWithin stuck "/index.js" {"./x.js"} := by
    intro earlier deferred failure hstop _
    cases hstop
    exact Finset.mem_singleton_self _
  exact ⟨hwithin, ((retries stuck "/index.js" []).2.2.1 _ hwithin).1⟩

end Task

end ModuleReach
