import ModuleReach.Proofs.Source.Forms

/-!
# Entries have names

Every form but that of addons asks for a specifier in quotes with something in it.  So the only entries
with an empty specifier are those of addons, where it stands for the package of the file itself.

## Main results

* `Source.exists_drop_of_mem_findAll` — what is found in a source was found by a form at its offset.
* `Source.specifier_ne_empty` — an entry that asks for no addon has a specifier.
-/

namespace ModuleReach.Source

/-- What a form finds in a text it finds at its offset, at the front of what is left of the text. -/
theorem exists_drop_of_mem_findAll {form : Form} {skip : Nat} {before : Option Char} {offset : Nat}
    {cs : List Cell} {found : Nat × Entry} (h : found ∈ findAll form skip before offset cs) :
    ∃ i, found.1 = offset + i ∧
      ∃ after, form (((cs.take i).getLast?.map Cell.shown).or before) (cs.drop i) = some (found.2, after) := by
  induction cs generalizing skip before offset with
  | nil =>
    rw [findAll] at h
    cases h
  | cons c cs ih =>
    have hlater : ∀ {skip}, found ∈ findAll form skip (some c.shown) (offset + 1) cs →
        ∃ i, found.1 = offset + i ∧ ∃ after,
          form ((((c :: cs).take i).getLast?.map Cell.shown).or before) ((c :: cs).drop i) =
            some (found.2, after) := by
      intro skip h
      obtain ⟨i, hi, after, hmatch⟩ := ih h
      refine ⟨i + 1, by omega, after, ?_⟩
      rw [List.take_succ_cons, List.drop_succ_cons, lastShown_cons]
      exact hmatch
    cases skip with
    | succ skip =>
      rw [findAll] at h
      exact hlater h
    | zero =>
      cases hmatch : form before (c :: cs) with
      | none =>
        rw [findAll, hmatch] at h
        exact hlater h
      | some result =>
        obtain ⟨entry, after⟩ := result
        rw [findAll, hmatch] at h
        rcases List.mem_cons.1 h with rfl | h
        · exact ⟨0, rfl, after, hmatch⟩
        · exact hlater h

/-- An entry of a source was found by one of the forms. -/
theorem exists_form_of_mem_entries {source : String} {entry : Entry} (h : entry ∈ entries source) :
    ∃ form ∈ forms, ∃ before left after, form before left = some (entry, after) := by
  rw [entries, List.mem_eraseDups, List.mem_map] at h
  obtain ⟨found, hfound, rfl⟩ := h
  obtain ⟨form, hform, hfound⟩ := mem_located_iff.1 hfound
  obtain ⟨i, -, after, hmatch⟩ := exists_drop_of_mem_findAll hfound
  exact ⟨form, hform, _, _, after, hmatch⟩

/-- A specifier in quotes has something in it. -/
theorem actualText_ne_empty {cs : List Cell} {read : List Cell × List Cell}
    (h : specifier? cs = some read) : actualText read.1 ≠ "" := by
  have hne : read.1 ≠ [] := by simpa using (Option.filter_eq_some_iff.1 h).2
  intro hempty
  have hchars : (actualText read.1).toList = "".toList := congrArg String.toList hempty
  rw [actualText, String.toList_ofList] at hchars
  exact hne (List.map_eq_nil_iff.1 hchars)

/-- A form that finds something other than an addon has read a specifier. -/
theorem specifier_ne_empty_of_form {form : Form} (hform : form ∈ forms) {before : Option Char}
    {left after : List Cell} {entry : Entry} (h : form before left = some (entry, after))
    (haddon : entry.isAddon = false) : entry.specifier ≠ "" := by
  simp only [forms, List.mem_cons, List.not_mem_nil, or_false] at hform
  rcases hform with rfl | rfl | rfl | rfl | rfl | rfl
  · obtain ⟨-, _, -, _, -, -, rfl⟩ := addonForm_eq_some_iff.1 h
    cases haddon
  · obtain ⟨-, _, -, _, -, read, hread, -, rfl⟩ := assetForm_eq_some_iff.1 h
    exact actualText_ne_empty hread
  · obtain ⟨-, _, -, _, -, read, hread, -, rfl⟩ := requireForm_eq_some_iff.1 h
    exact actualText_ne_empty hread
  · obtain ⟨-, _, -, -, read, hread, rfl, -⟩ := staticForm_eq_some_iff.1 h
    exact actualText_ne_empty hread
  · obtain ⟨-, _, -, -, read, hread, rfl, -⟩ := staticForm_eq_some_iff.1 h
    exact actualText_ne_empty hread
  · obtain ⟨-, _, -, _, -, read, hread, -, rfl⟩ := callForm_eq_some_iff.1 h
    exact actualText_ne_empty hread

/-- An entry that asks for no addon has a specifier. -/
theorem specifier_ne_empty {source : String} {entry : Entry} (h : entry ∈ entries source)
    (haddon : entry.isAddon = false) : entry.specifier ≠ "" := by
  obtain ⟨form, hform, _, _, _, hfound⟩ := exists_form_of_mem_entries h
  exact specifier_ne_empty_of_form hform hfound haddon

end ModuleReach.Source
