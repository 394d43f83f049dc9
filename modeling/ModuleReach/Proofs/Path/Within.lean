import ModuleReach.Proofs.Path.Canonical

/-!
# Paths inside a directory

A path lies inside a directory if its canonical segments begin with those of the directory.  A relative path without a
segment `..` leads from a directory to a path inside it.

Such a path may come from a pattern in which a text takes the place of every `*`.  The text then runs together with what
is written around the `*`, and so it can complete a segment `..` that neither has.  It does not if its own first and last
segments are ordinary names.

## Main definitions

* `Path.IsWithin` — that a path lies inside a directory, or is the directory.
* `Path.IsOrdinary` — the segments that are neither empty nor `.` nor `..`.
* `Path.LeadsDown` — the texts that can take the place of a `*` without leading up.

## Main results

* `Path.isWithin_normalize_join` — relative paths without `..` stay inside a directory.
* `Path.notMem_segments_replaceChar` — a text that leads down brings no segment `..` about.
-/

namespace ModuleReach

namespace Text

/-- A text is split as its two parts are, but the last piece of the first runs together with the first piece of the
second. -/
theorem splitWhere_append {p : Char → Bool} (s : List Char) {t first : List Char} {others : List (List Char)}
    (ht : splitWhere p t = first :: others) :
    ∃ front last, splitWhere p s = front ++ [last] ∧
      splitWhere p (s ++ t) = front ++ (last ++ first) :: others := by
  induction s with
  | nil => exact ⟨[], [], rfl, ht⟩
  | cons c rest ih =>
    obtain ⟨front, last, hrest, happend⟩ := ih
    rw [List.cons_append, splitWhere, splitWhere, hrest, happend]
    by_cases hc : p c = true
    · rw [if_pos hc, if_pos hc]
      exact ⟨[] :: front, last, rfl, rfl⟩
    · rw [if_neg hc, if_neg hc]
      cases front with
      | nil => exact ⟨[], c :: last, rfl, rfl⟩
      | cons piece pieces => exact ⟨(c :: piece) :: pieces, last, rfl, rfl⟩

end Text

namespace Path

open Text

/-! ### Relative paths -/

/-- Segments other than `..` only add to a stack. -/
theorem suffix_foldl_descend {segments : List (List Char)} (h : ['.', '.'] ∉ segments)
    (stack : List (List Char)) : stack <:+ segments.foldl descend stack := by
  induction segments generalizing stack with
  | nil => exact List.suffix_rfl
  | cons segment rest ih =>
    have hsegment : segment ≠ ['.', '.'] := fun heq => h (heq ▸ List.mem_cons_self)
    have hstep : stack <:+ descend stack segment := by
      rw [descend, if_neg hsegment]
      split
      · exact List.suffix_rfl
      · exact List.suffix_cons segment stack
    rw [List.foldl_cons]
    exact hstep.trans (ih (fun hmem => h (List.mem_cons_of_mem _ hmem)) _)

/-- Whether a path lies inside a directory, or is the directory. -/
def IsWithin (directory path : String) : Prop :=
  canonical directory.toList <+: canonical path.toList

instance (directory path : String) : Decidable (IsWithin directory path) :=
  inferInstanceAs (Decidable (_ <+: _))

/-- What a text names is inside a directory if its canonical form is. -/
theorem isWithin_normalize_iff {directory path : String} :
    IsWithin directory (normalize path) ↔ IsWithin directory path := by
  rw [IsWithin, IsWithin, canonical_normalize]

/-- A relative path without a segment `..` leads to a path inside the directory from which it is read. -/
theorem isWithin_normalize_join {directory path : String} (hrelative : path.toList.head? ≠ some '/')
    (h : ['.', '.'] ∉ splitWhere isSeparator path.toList) :
    IsWithin directory (normalize (join directory path)) := by
  rw [isWithin_normalize_iff, IsWithin, join, String.toList_ofList, canonical, canonical,
    stackOf_joinChars _ hrelative, List.reverse_prefix]
  exact suffix_foldl_descend h _

/-! ### Texts in the place of a character -/

/-- A segment that is neither empty nor `.` nor `..`.  No text before or after it makes it one of these. -/
def IsOrdinary (s : List Char) : Prop := s ≠ [] ∧ s ≠ ['.'] ∧ s ≠ ['.', '.']

theorem IsOrdinary.append {s : List Char} (h : IsOrdinary s) (t : List Char) : IsOrdinary (s ++ t) := by
  obtain ⟨hempty, hdot, hdots⟩ := h
  match s, hempty, hdot with
  | [c], _, hdot =>
    cases t <;> simp_all [IsOrdinary]
  | c :: d :: rest, _, _ =>
    cases rest <;> simp_all [IsOrdinary]

theorem IsOrdinary.cons {s : List Char} (h : IsOrdinary s) (c : Char) : IsOrdinary (c :: s) := by
  obtain ⟨hempty, hdot, -⟩ := h
  exact ⟨List.cons_ne_nil _ _, by simp [hempty], by simp [hdot]⟩

/-- A text that leads nowhere up, and does not do so either if it runs together with what is before and after it: it has
no segment `..`, and its first and last segments are ordinary. -/
structure LeadsDown (s : List Char) : Prop where
  first : ∀ segment ∈ (splitWhere isSeparator s).head?, IsOrdinary segment
  last : ∀ segment ∈ (splitWhere isSeparator s).getLast?, IsOrdinary segment
  inside : ['.', '.'] ∉ splitWhere isSeparator s

/-- An ordinary name leads down. -/
theorem IsSegment.leadsDown {s : List Char} (h : IsSegment s) : LeadsDown s := by
  have hsplit : splitWhere isSeparator s = [s] := splitWhere_of_forall_not h.2.2.2
  have hordinary : IsOrdinary s := ⟨h.1, h.2.1, h.2.2.1⟩
  refine ⟨?_, ?_, ?_⟩
  · simpa [hsplit] using hordinary
  · simpa [hsplit] using hordinary
  · simpa [hsplit] using Ne.symm h.2.2.1

/-- If a text that leads down takes the place of a character, the first segment is the one that was first before or has
become ordinary, and no later one has become `..`. -/
theorem exists_segments_replaceChar {mark : Char} (hmark : isSeparator mark = false) {piece : List Char}
    (hpiece : LeadsDown piece) (text : List Char) :
    ∃ first others old olds, splitWhere isSeparator (replaceChar mark piece text) = first :: others ∧
      splitWhere isSeparator text = old :: olds ∧ (first = old ∨ IsOrdinary first) ∧
      (['.', '.'] ∈ others → ['.', '.'] ∈ olds) := by
  induction text with
  | nil => exact ⟨[], [], [], [], rfl, rfl, .inl rfl, id⟩
  | cons c rest ih =>
    obtain ⟨first, others, old, olds, hreplaced, hold, hfirst, hothers⟩ := ih
    have hcons : replaceChar mark piece (c :: rest) =
        (if c = mark then piece else [c]) ++ replaceChar mark piece rest := List.flatMap_cons
    rw [hcons, splitWhere, hold]
    by_cases hc : c = mark
    · -- The last segment of the piece runs together with what follows, and stays ordinary.
      subst hc
      obtain ⟨hhead, htail, hinside⟩ := hpiece
      obtain ⟨front, last, hsplit, happend⟩ := splitWhere_append piece hreplaced
      rw [hsplit] at hhead htail hinside
      have hlast : IsOrdinary (last ++ first) := (htail last (by simp)).append first
      rw [if_pos rfl, if_neg (by simp [hmark]), happend]
      cases front with
      | nil => exact ⟨last ++ first, others, c :: old, olds, rfl, rfl, .inr hlast, hothers⟩
      | cons name names =>
        refine ⟨name, names ++ (last ++ first) :: others, c :: old, olds, rfl, rfl, .inr (hhead name rfl), ?_⟩
        intro hmem
        rcases List.mem_append.1 hmem with hname | hmem
        · exact absurd (by simp [hname]) hinside
        · rcases List.mem_cons.1 hmem with heq | hmem
          · exact absurd heq.symm hlast.2.2
          · exact hothers hmem
    · rw [if_neg hc, List.singleton_append, splitWhere, hreplaced]
      by_cases hseparator : isSeparator c = true
      · rw [if_pos hseparator, if_pos hseparator]
        refine ⟨[], first :: others, [], old :: olds, rfl, rfl, .inl rfl, ?_⟩
        intro hmem
        rcases List.mem_cons.1 hmem with heq | hmem
        · rcases hfirst with hsame | hordinary
          · rw [heq, hsame]
            exact List.mem_cons_self
          · exact absurd heq.symm hordinary.2.2
        · exact List.mem_cons_of_mem _ (hothers hmem)
      · rw [if_neg hseparator, if_neg hseparator]
        refine ⟨c :: first, others, c :: old, olds, rfl, rfl, ?_, hothers⟩
        rcases hfirst with hsame | hordinary
        · exact .inl (by rw [hsame])
        · exact .inr (hordinary.cons c)

/-- If a text that leads down takes the place of a character, no segment `..` arises. -/
theorem notMem_segments_replaceChar {mark : Char} (hmark : isSeparator mark = false) {piece text : List Char}
    (hpiece : LeadsDown piece) (h : ['.', '.'] ∉ splitWhere isSeparator text) :
    ['.', '.'] ∉ splitWhere isSeparator (replaceChar mark piece text) := by
  obtain ⟨first, others, old, olds, hreplaced, hold, hfirst, hothers⟩ := exists_segments_replaceChar hmark hpiece text
  rw [hold] at h
  rw [hreplaced]
  intro hmem
  rcases List.mem_cons.1 hmem with heq | hmem
  · rcases hfirst with hsame | hordinary
    · exact h (by rw [heq, hsame]; exact List.mem_cons_self)
    · exact hordinary.2.2 heq.symm
  · exact h (List.mem_cons_of_mem _ (hothers hmem))

end Path

end ModuleReach
