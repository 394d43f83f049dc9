import ModuleReach.Resolution.Plan
import ModuleReach.Proofs.Resolution.Outlook

/-!
# Resolving entries in a closed store

Targets that can be read, and the manifests, say where the specifier of an entry is looked for, whatever the entry asks
for.  The answer is the first of these places where there is a file.

## Main definitions

* `Plan.places` — where the specifier of an entry is looked for.

## Main results

* `Plan.outcome_resolve`, `Resolver.outcome_standard` — the answer for an entry.
-/

namespace ModuleReach

/-- A target that can be read gives its sets of conditions before those of the targets after it. -/
theorem buildConditions_cons {text : String} {rest : List String} {conditions : Conditions} :
    buildConditions (text :: rest) = .ok conditions ↔ ∃ target others,
      Target.parse? text = some target ∧ buildConditions rest = .ok others ∧
        conditions = target.conditions ++ others := by
  rw [buildConditions, Target.parse]
  constructor
  · intro h
    cases htarget : Target.parse? text with
    | none =>
      rw [htarget] at h
      cases h
    | some target =>
      cases hothers : buildConditions rest with
      | error cause =>
        rw [htarget, hothers] at h
        cases h
      | ok others =>
        rw [htarget, hothers] at h
        cases h
        exact ⟨target, others, rfl, rfl, rfl⟩
  · rintro ⟨target, others, htarget, hothers, rfl⟩
    rw [htarget, hothers]
    rfl

/-- Targets that can all be read give sets of conditions. -/
theorem exists_buildConditions {targets : List String}
    (h : ∀ target ∈ targets, (Target.parse? target).isSome) :
    ∃ conditions, buildConditions targets = .ok conditions := by
  induction targets with
  | nil => exact ⟨[], rfl⟩
  | cons text rest ih =>
    obtain ⟨others, hothers⟩ := ih fun t ht => h t (by simp [ht])
    obtain ⟨target, htarget⟩ := Option.isSome_iff_exists.1 (h text (by simp))
    exact ⟨_, buildConditions_cons.2 ⟨target, others, htarget, hothers, rfl⟩⟩

/-- Only what asks for an addon is an addon. -/
theorem Entry.isAddon_of_kind {e : Entry} (h : e.kind = .addon) : e.isAddon = true := by
  unfold kind at h
  split at h
  · assumption
  · repeat' split at h
    all_goals cases h

namespace Plan

/-- Where the specifier of an entry is looked for. -/
def places (p : Plan) (manifest? : String → Option Manifest) (referrer : Option Url)
    (targets : List String) : List String :=
  let o : Outlook := ⟨manifest?, p.extensions.getD [], conditionMatrix p.conditions⟩
  if p.isAddon then o.addonPlaces p.specifier (Resolution.baseOf referrer) targets
  else o.places p.specifier (Resolution.baseOf referrer)

/-- An addon is never looked for under the empty specifier. -/
theorem specifier_ne_empty {e : Entry} {conditions : Conditions}
    (h : (under e conditions).isAddon = true) : (under e conditions).specifier ≠ "" := by
  have hkind : e.kind = .addon := by simpa [isAddon, under] using h
  have haddon : e.isAddon = true := Entry.isAddon_of_kind hkind
  change specifierOf e ≠ ""
  unfold specifierOf
  by_cases hempty : e.specifier = ""
  · rw [if_pos ⟨haddon, hempty⟩]
    decide
  · rw [if_neg fun h => hempty h.2]
    exact hempty

theorem outcome_resolve {s : Store} (hs : s.Closed) {p : Plan}
    (hp : p.isAddon = true → p.specifier ≠ "") (referrer : Option Url) (targets : List String) :
    (p.resolve s referrer targets).outcome =
      .ok (Resolution.firstOf s p.specifier referrer
        (p.places (Manifest.of? s) referrer targets)) := by
  unfold resolve places
  cases haddon : p.isAddon with
  | true => exact Resolution.outcome_addon hs (hp haddon) _ _ _ _
  | false => exact Resolution.outcome_module hs _ _ _ _

end Plan

namespace Resolver

/-- The answer for an entry is the first file among the places for its specifier; an addon's empty specifier is
named as `.`. -/
theorem outcome_standard {s : Store} (hs : s.Closed) (e : Entry) (referrer : Option Url)
    {targets : List String} {conditions : Conditions}
    (hconditions : buildConditions targets = .ok conditions) :
    (standard s e referrer targets).outcome =
      .ok (Resolution.firstOf s (Plan.specifierOf e) referrer
        ((Plan.under e conditions).places (Manifest.of? s) referrer targets)) := by
  have hplan : Plan.ofEntry e targets = .ok (Plan.under e conditions) := by
    rw [Plan.ofEntry, hconditions]
    rfl
  rw [standard, hplan]
  exact Plan.outcome_resolve hs Plan.specifier_ne_empty referrer targets

/-- Without readable targets no entry has an answer. -/
theorem outcome_standard_of_malformed (s : Store) (e : Entry) (referrer : Option Url)
    {targets : List String} {cause : ConfigFault}
    (hconditions : buildConditions targets = .error cause) :
    (standard s e referrer targets).outcome = .error (.config cause) := by
  rw [standard, Plan.ofEntry, hconditions]
  rfl

end Resolver

end ModuleReach
