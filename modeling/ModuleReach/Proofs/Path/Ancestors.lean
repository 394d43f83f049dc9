import Mathlib.Data.List.Infix
import ModuleReach.Proofs.Path.Within

/-!
# The directories above a path

The ancestors of a path are the directories that enclose it, each of them once, from the path itself up to the root.  So the
first of them with some property is the nearest one: every other directory with the property that encloses the path encloses
this one, too.

## Main definitions

* `Path.Encloses` — that a canonical directory encloses a path, or is the path.
* `Path.IsNearest` — the nearest directory with a property that encloses a path.

## Main results

* `Path.mem_ancestors_iff` — the ancestors of a path are what encloses it.
* `Path.find?_ancestors_eq_some_iff` — the first ancestor with a property is the nearest one.
-/

namespace ModuleReach.Path

open Text

theorem climb_eq_tails (stack : List (List Char)) : climb stack = stack.tails := by
  induction stack with
  | nil => rfl
  | cons segment above ih => rw [climb, ih, List.tails]

/-- Whether a path in canonical form is a directory in which another path lies, or this path itself. -/
def Encloses (directory path : String) : Prop := normalize directory = directory ∧ IsWithin directory path

/-- The nearest of the directories with a property that enclose a path. -/
structure IsNearest (p : String → Prop) (path directory : String) : Prop where
  encloses : Encloses directory path
  holds : p directory
  nearest : ∀ other, Encloses other path → p other → IsWithin other directory

/-- The path that is written from a part of a stack. -/
theorem canonical_of_suffix {text : List Char} {stack : List (List Char)} (h : stack <:+ stackOf text) :
    canonical (render stack.reverse) = stack.reverse := by
  refine canonical_render fun segment hsegment => ?_
  have hmem : segment ∈ stackOf text := h.subset (List.mem_reverse.1 hsegment)
  exact mem_canonical (List.mem_reverse.2 hmem)

theorem mem_ancestors_iff {path directory : String} : directory ∈ ancestors path ↔ Encloses directory path := by
  rw [ancestors, climb_eq_tails, List.mem_map]
  constructor
  · rintro ⟨stack, hstack, rfl⟩
    have hsuffix : stack <:+ stackOf path.toList := (List.mem_tails _ _).1 hstack
    have hcanonical := canonical_of_suffix hsuffix
    refine ⟨?_, ?_⟩
    · rw [normalize, String.toList_ofList, hcanonical]
    · rw [IsWithin, String.toList_ofList, hcanonical, canonical, List.reverse_prefix]
      exact hsuffix
  · rintro ⟨hnormal, hwithin⟩
    refine ⟨(canonical directory.toList).reverse, ?_, ?_⟩
    · rw [List.mem_tails, ← List.reverse_prefix, List.reverse_reverse]
      exact hwithin
    · rw [List.reverse_reverse]
      exact hnormal

/-- Each ancestor is enclosed by those after it. -/
theorem pairwise_ancestors (path : String) : (ancestors path).Pairwise fun d d' => IsWithin d' d := by
  rw [ancestors, climb_eq_tails, List.pairwise_map]
  have htails : ∀ stack : List (List Char), stack.tails.Pairwise fun t t' => t' <:+ t := by
    intro stack
    induction stack with
    | nil => simp
    | cons segment above ih =>
      rw [List.tails, List.pairwise_cons]
      refine ⟨?_, ih⟩
      intro t ht
      exact ((List.mem_tails _ _).1 ht).trans (List.suffix_cons segment above)
  refine (htails (stackOf path.toList)).imp_of_mem ?_
  intro t t' ht ht' hsuffix
  rw [IsWithin, String.toList_ofList, String.toList_ofList, canonical_of_suffix ((List.mem_tails _ _).1 ht),
    canonical_of_suffix ((List.mem_tails _ _).1 ht'), List.reverse_prefix]
  exact hsuffix

/-- Only one directory is the nearest. -/
theorem IsNearest.unique {p : String → Prop} {path directory directory' : String} (h : IsNearest p path directory)
    (h' : IsNearest p path directory') : directory = directory' := by
  have hle : IsWithin directory directory' := h'.nearest directory h.encloses h.holds
  have hge : IsWithin directory' directory := h.nearest directory' h'.encloses h'.holds
  rw [← h.encloses.1, ← h'.encloses.1, normalize_eq_iff]
  exact hle.eq_of_length_le hge.length_le

/-- The first ancestor with a property is the nearest directory that has it. -/
theorem isNearest_of_find? {p : String → Bool} {path directory : String}
    (h : (ancestors path).find? p = some directory) : IsNearest (p · = true) path directory := by
  obtain ⟨hp, nearer, further, hsplit, hfails⟩ := List.find?_eq_some_iff_append.1 h
  refine ⟨?_, hp, ?_⟩
  · rw [← mem_ancestors_iff, hsplit]
    simp
  · intro other hother hpother
    rw [← mem_ancestors_iff, hsplit, List.mem_append, List.mem_cons] at hother
    have hpairwise := pairwise_ancestors path
    rw [hsplit, List.pairwise_append, List.pairwise_cons] at hpairwise
    rcases hother with hother | rfl | hother
    · simpa [hpother] using hfails other hother
    · exact List.prefix_rfl
    · exact hpairwise.2.1.1 other hother

theorem find?_ancestors_eq_some_iff {p : String → Bool} {path directory : String} :
    (ancestors path).find? p = some directory ↔ IsNearest (p · = true) path directory := by
  constructor
  · exact isNearest_of_find?
  · intro h
    cases hfind : (ancestors path).find? p with
    | none =>
      have hmem : directory ∈ ancestors path := mem_ancestors_iff.2 h.encloses
      exact absurd h.holds (List.find?_eq_none.1 hfind directory hmem)
    | some found => rw [h.unique (isNearest_of_find? hfind)]

end ModuleReach.Path
