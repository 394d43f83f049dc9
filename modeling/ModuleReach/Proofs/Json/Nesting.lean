import ModuleReach.Json.Reader

/-!
# How deep the reader of JSON gets

The reader is in no more arrays and objects at once than the text has characters, and there are texts of every length that
take it as deep as that: those that open an array with each character.  None of them is well formed, and the reader
finds this out only at the end.

## Main results

* `Json.depth_le` — the reader gets no deeper than the text is long.
* `Json.read?_brackets`, `Json.depth_brackets` — arrays that are opened and never closed.
-/

namespace ModuleReach.Json

namespace Reader

/-- Each array or object takes two calls. -/
theorem depth_le_half (n : Nat) : ∀ s, valueDepth n s ≤ (n + 1) / 2 ∧ itemsDepth n s ≤ n / 2 ∧ fieldsDepth n s ≤ n / 2 := by
  -- The induction is on the fuel, of which every call takes one, and holds for the three kinds of calls at once.
  induction n with
  | zero =>
    intro s
    simp [valueDepth, itemsDepth, fieldsDepth]
  | succ n ih =>
    intro s
    refine ⟨?_, ?_, ?_⟩
    · unfold valueDepth
      split
      · rename_i rest
        split
        · omega
        · have hitems := (ih (skip rest)).2.1
          omega
      · rename_i rest
        split
        · omega
        · have hfields := (ih (skip rest)).2.2
          omega
      · omega
    · unfold itemsDepth
      have hfirst := (ih s).1
      split
      · rename_i rest _
        have hrest := (ih rest).2.1
        omega
      · omega
    · unfold fieldsDepth
      split
      · split
        · rename_i rest _
          have hfirst := (ih (skip rest)).1
          split
          · rename_i others _
            have hothers := (ih others).2.2
            omega
          · omega
        · omega
      · omega

/-! ### Arrays that are never closed -/

theorem skip_brackets (n : Nat) : skip (List.replicate n '[') = List.replicate n '[' := by
  cases n with
  | zero => rfl
  | succ n => simp [skip, isBlank, List.replicate_succ]

/-- No array that is opened is closed. -/
theorem value_brackets (n fuel : Nat) : value fuel (List.replicate n '[') = none := by
  induction n generalizing fuel with
  | zero =>
    cases fuel with
    | zero => rfl
    | succ fuel => rfl
  | succ n ih =>
    have hitems : ∀ fuel, items fuel (List.replicate n '[') = none := by
      intro fuel
      cases fuel with
      | zero => rfl
      | succ fuel => rw [items, ih]
    cases fuel with
    | zero => rfl
    | succ fuel =>
      rw [List.replicate_succ, value, skip_brackets]
      cases n with
      | zero => simpa using hitems fuel
      | succ n => simpa [List.replicate_succ] using hitems fuel

theorem valueDepth_brackets (n fuel : Nat) : valueDepth (2 * n + fuel) (List.replicate n '[') = n := by
  induction n generalizing fuel with
  | zero => cases 2 * 0 + fuel <;> rfl
  | succ n ih =>
    -- The bracket takes two calls: one for the array, and one for the items in it.
    have hitems : itemsDepth (2 * n + fuel + 1) (List.replicate n '[') = n := by
      rw [itemsDepth, ih, value_brackets]
      exact Nat.max_zero n
    have hfuel : 2 * (n + 1) + fuel = 2 * n + fuel + 1 + 1 := by omega
    rw [hfuel, List.replicate_succ, valueDepth, skip_brackets]
    cases n with
    | zero => simpa using hitems
    | succ n => simpa [List.replicate_succ] using hitems

end Reader

/-- The reader gets no deeper than the text is long. -/
theorem depth_le (s : List Char) : depth s ≤ s.length := by
  have h := (Reader.depth_le_half (2 * s.length) (Reader.skip s)).1
  rw [depth]
  omega

/-- An array that is opened again and again is malformed. -/
theorem read?_brackets (n : Nat) : read? (List.replicate n '[') = none := by
  rw [read?, Reader.skip_brackets, Reader.value_brackets]

/-- It nests as deep as it is long. -/
theorem depth_brackets (n : Nat) : depth (List.replicate n '[') = n := by
  rw [depth, Reader.skip_brackets, List.length_replicate]
  exact Reader.valueDepth_brackets n 0

end ModuleReach.Json
