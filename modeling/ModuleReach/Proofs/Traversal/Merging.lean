import Mathlib.Data.List.Basic
import ModuleReach.Proofs.Pack.Misses
import ModuleReach.Traversal.Report

/-!
# Merging in parts

A report keeps each file at the place where it was first seen, of the skips for one specifier in one file the first one, and
the resolutions of a file at the place where it first had some, but with those that it was given last.  Whatever the results
are, also where they do not agree, nothing that one of them names is lost and nothing is made up.  So results may be merged
in parts: the report on all of them is the report on the reports on the parts, in the same order.

## Main definitions

* `firstsBy` — the first elements of a list with each key.
* `KeepsFirsts` — the lists of first elements, by what they hold and in which order.
* `Report.asResult` — a report, taken for the result of one entrypoint.

## Main results

* `keepsFirsts_firstsBy`, `firstsBy_append` — first elements are in the order of their keys, and those of two lists are
  those of their first elements.
* `InsertionMap.keys_union`, `InsertionMap.union_assoc` — the order of keys, and writing maps over one another in parts.
* `Report.merge_append` — the report on two lists of results.
-/

namespace ModuleReach

/-! ### The first element for each key, in order -/

section Firsts

variable {α κ : Type} [BEq κ] {key : α → κ}

/-- The first elements of a list with each key. -/
def firstsBy (key : α → κ) (l : List α) : List α := l.eraseDupsBy fun a b => key a == key b

/-- The first elements of a list with each key, in the order in which their keys first come. -/
structure KeepsFirsts (key : α → κ) (all kept : List α) : Prop where
  /-- What is kept is the first element with its key. -/
  first : ∀ a, a ∈ kept ↔ all.find? (key · == key a) = some a
  /-- No key is lost, and none is made up. -/
  complete : ∀ k, k ∈ kept.map key ↔ k ∈ all.map key
  /-- No key is kept twice. -/
  nodup : (kept.map key).Nodup
  /-- A key that first comes before another one is kept before it. -/
  ordered : (kept.map key).Pairwise fun j k => (all.map key).idxOf j < (all.map key).idxOf k

@[simp] theorem firstsBy_nil : firstsBy key [] = [] := rfl

variable [LawfulBEq κ]

/-- Elements with a key may be left out before or after. -/
theorem filter_firstsBy (k : κ) (l : List α) :
    (firstsBy key l).filter (key · != k) = firstsBy key (l.filter (key · != k)) := by
  refine filter_eraseDupsBy ?_ l
  intro a b hkey
  rw [hkey]

/-- Behind an element, only those with other keys are kept. -/
theorem firstsBy_cons (a : α) (l : List α) :
    firstsBy key (a :: l) = a :: (firstsBy key l).filter (key · != key a) := by
  have hsame : (fun b : α => decide ((key b == key a) = false)) = (key · != key a) := by
    funext b
    cases h : key b == key a <;> simp [bne, h]
  rw [filter_firstsBy, firstsBy, List.eraseDupsBy_cons, hsame]
  rfl

/-- First elements are their own first elements. -/
theorem firstsBy_firstsBy (l : List α) : firstsBy key (firstsBy key l) = firstsBy key l := by
  induction l with
  | nil => rfl
  | cons a l ih =>
    rw [firstsBy_cons, firstsBy_cons, ← filter_firstsBy, ih, List.filter_filter]
    simp only [Bool.and_self]

/-- The first elements of two lists are those of their first elements. -/
theorem firstsBy_append (l m : List α) :
    firstsBy key (firstsBy key l ++ firstsBy key m) = firstsBy key (l ++ m) := by
  induction l with
  | nil => exact firstsBy_firstsBy m
  | cons a l ih =>
    rw [firstsBy_cons, List.cons_append, firstsBy_cons, List.cons_append, firstsBy_cons, ← ih]
    -- What the first element displaces may be left out at once or at the end.
    rw [filter_firstsBy (key a) (_ ++ _), filter_firstsBy (key a) (_ ++ _), List.filter_append, List.filter_append,
      List.filter_filter]
    simp only [Bool.and_self]

/-- Elements with different keys are all the first with theirs. -/
theorem firstsBy_of_nodup {l : List α} (h : (l.map key).Nodup) : firstsBy key l = l := by
  induction l with
  | nil => rfl
  | cons a l ih =>
    obtain ⟨hnew, hnodup⟩ := List.nodup_cons.1 h
    rw [firstsBy_cons, ih hnodup, List.filter_eq_self.2]
    intro b hb
    have hne : key b ≠ key a := fun heq => hnew (List.mem_map.2 ⟨b, hb, heq⟩)
    simpa using hne

/-- An element that has come before is passed over. -/
theorem firstsBy_append_cons_of_mem {k : κ} {l m : List κ} (h : k ∈ l) :
    firstsBy id (l ++ k :: m) = firstsBy id (l ++ m) := by
  induction l with
  | nil => nomatch h
  | cons j l ih =>
    rw [List.cons_append, List.cons_append, firstsBy_cons, firstsBy_cons]
    by_cases hk : k ∈ l
    · rw [ih hk]
    · obtain rfl : k = j := (List.mem_cons.1 h).resolve_right hk
      rw [filter_firstsBy, filter_firstsBy, List.filter_append, List.filter_append,
        List.filter_cons_of_neg (by simp)]

/-- The keys of first elements are in the order in which they first come. -/
theorem pairwise_idxOf_firstsBy (l : List α) :
    ((firstsBy key l).map key).Pairwise fun j k => (l.map key).idxOf j < (l.map key).idxOf k := by
  induction l with
  | nil => exact .nil
  | cons a l ih =>
    have hother : ∀ k ∈ ((firstsBy key l).filter (key · != key a)).map key, key a ≠ k := by
      intro k hk heq
      obtain ⟨b, hb, rfl⟩ := List.mem_map.1 hk
      have hne := (List.mem_filter.1 hb).2
      simp [heq] at hne
    rw [firstsBy_cons, List.map_cons, List.map_cons]
    refine List.pairwise_cons.2 ⟨?_, ?_⟩
    · intro k hk
      rw [List.idxOf_cons_self, List.idxOf_cons_ne _ (hother k hk)]
      exact Nat.succ_pos _
    · refine (ih.sublist (List.filter_sublist.map key)).imp_of_mem ?_
      intro j k hj hk hlt
      rw [List.idxOf_cons_ne _ (hother j hj), List.idxOf_cons_ne _ (hother k hk)]
      exact Nat.succ_lt_succ hlt

theorem keepsFirsts_firstsBy (l : List α) : KeepsFirsts key l (firstsBy key l) where
  first _ := mem_eraseDupsBy_iff l
  complete _ := mem_map_eraseDupsBy_iff
  nodup := (pairwise_idxOf_firstsBy l).imp fun hlt heq => by simp [heq] at hlt
  ordered := pairwise_idxOf_firstsBy l

end Firsts

/-! ### Maps written over others -/

namespace InsertionMap

variable {κ α : Type} [DecidableEq κ]

/-- One map written over another has the values of the second one where there are any. -/
theorem get?_union (m n : InsertionMap κ α) (key : κ) :
    (m.union n).get? key = (n.get? key).or (m.get? key) := by
  have hwrite : ∀ (entries : List (κ × α)) (m : InsertionMap κ α), (entries.map Prod.fst).Nodup →
      (entries.foldl (fun m e => m.insert e.1 e.2) m).get? key = (lookup key entries).or (m.get? key) := by
    intro entries
    induction entries with
    | nil => exact fun m _ => rfl
    | cons e rest ih =>
      intro m hnodup
      obtain ⟨hnew, hrest⟩ := List.nodup_cons.1 hnodup
      rw [List.foldl_cons, ih _ hrest, get?_insert, lookup]
      by_cases hkey : e.1 = key
      · -- No later entry writes at this key.
        rw [lookup_eq_none_iff.2 (hkey ▸ hnew), if_pos hkey, if_pos hkey]
        rfl
      · rw [if_neg hkey, if_neg hkey]
  exact hwrite n.entries m n.nodup

/-- Maps with the same keys in the same order and the same values are equal. -/
theorem ext_get? {m n : InsertionMap κ α} (hkeys : m.keys = n.keys) (hget : ∀ key, m.get? key = n.get? key) :
    m = n := by
  have hentries : ∀ entries entries' : List (κ × α), (entries.map Prod.fst).Nodup →
      entries.map Prod.fst = entries'.map Prod.fst → (∀ key, lookup key entries = lookup key entries') →
      entries = entries' := by
    intro entries
    induction entries with
    | nil => exact fun entries' _ hkeys _ => (List.map_eq_nil_iff.1 hkeys.symm).symm
    | cons e rest ih =>
      intro entries' hnodup hkeys hget
      obtain ⟨⟨key, value⟩, rest', rfl, rfl, hrest⟩ := List.map_eq_cons_iff.1 hkeys.symm
      obtain ⟨hnew, hnodup⟩ := List.nodup_cons.1 hnodup
      have hvalue : e.2 = value := by simpa [lookup] using hget e.1
      refine congrArg₂ List.cons (Prod.ext rfl hvalue) (ih rest' hnodup hrest.symm fun key => ?_)
      by_cases hkey : e.1 = key
      · rw [← hkey, lookup_eq_none_iff.2 hnew, lookup_eq_none_iff.2 (hrest ▸ hnew)]
      · simpa [lookup, hkey] using hget key
  exact ext (hentries _ _ m.nodup hkeys hget)

theorem firstsBy_keys (m : InsertionMap κ α) : firstsBy id m.keys = m.keys :=
  firstsBy_of_nodup (by rw [List.map_id]; exact m.nodup)

/-- The keys of one map written over another are those of both, as they first come. -/
theorem keys_union (m n : InsertionMap κ α) : (m.union n).keys = firstsBy id (m.keys ++ n.keys) := by
  have hwrite : ∀ (entries : List (κ × α)) (m : InsertionMap κ α),
      (entries.foldl (fun m e => m.insert e.1 e.2) m).keys = firstsBy id (m.keys ++ entries.map Prod.fst) := by
    intro entries
    induction entries with
    | nil => exact fun m => by rw [List.map_nil, List.append_nil, firstsBy_keys]; rfl
    | cons e rest ih =>
      intro m
      rw [List.foldl_cons, ih, keys_insert]
      split
      · rename_i hmem
        rw [List.map_cons, firstsBy_append_cons_of_mem hmem]
      · rw [List.append_assoc, List.singleton_append, List.map_cons]
  exact hwrite n.entries m

theorem empty_union (m : InsertionMap κ α) : (∅ : InsertionMap κ α).union m = m := by
  refine ext_get? ?_ fun key => ?_
  · rw [keys_union, keys_empty, List.nil_append, firstsBy_keys]
  · rw [get?_union, get?_empty, Option.or_none]

/-- It is the same to write a map over another one, and then a third one, and to write the third one over the second
one first. -/
theorem union_assoc (m n o : InsertionMap κ α) : (m.union n).union o = m.union (n.union o) := by
  refine ext_get? ?_ fun key => ?_
  · calc ((m.union n).union o).keys
        = firstsBy id (firstsBy id (m.keys ++ n.keys) ++ firstsBy id o.keys) := by
          rw [keys_union, keys_union, firstsBy_keys]
      _ = firstsBy id (firstsBy id m.keys ++ firstsBy id (n.keys ++ o.keys)) := by
          rw [firstsBy_append, firstsBy_append, List.append_assoc]
      _ = (m.union (n.union o)).keys := by rw [keys_union, keys_union, firstsBy_keys]
  · rw [get?_union, get?_union, get?_union, get?_union, Option.or_assoc]

end InsertionMap

/-! ### Reports on reports -/

/-- A report, taken for the result of an entrypoint. -/
def Report.asResult (report : Report) (entrypoint : String) : EntrypointResult :=
  ⟨entrypoint, report.files, report.skips, report.resolutions⟩

namespace Report

theorem mergeFiles_eq (results : List EntrypointResult) :
    mergeFiles results = firstsBy id (results.flatMap (·.files)) := rfl

theorem mergeSkips_eq (results : List EntrypointResult) :
    mergeSkips results = firstsBy Skip.key (results.flatMap (·.skips)) := rfl

/-- Writing the resolutions of some results over a map is writing what they leave over it. -/
theorem foldl_union (results : List EntrypointResult) (merged : Resolutions) :
    results.foldl (fun merged r => merged.union r.resolutions) merged = merged.union (mergeResolutions results) := by
  rw [mergeResolutions]
  induction results generalizing merged with
  | nil => rfl
  | cons r rest ih =>
    rw [List.foldl_cons, List.foldl_cons, ih, ih (InsertionMap.union ∅ _), InsertionMap.empty_union,
      InsertionMap.union_assoc]

theorem mergeResolutions_cons (r : EntrypointResult) (results : List EntrypointResult) :
    mergeResolutions (r :: results) = r.resolutions.union (mergeResolutions results) := by
  rw [mergeResolutions, List.foldl_cons, foldl_union, InsertionMap.empty_union]

theorem mergeResolutions_append (xs ys : List EntrypointResult) :
    mergeResolutions (xs ++ ys) = (mergeResolutions xs).union (mergeResolutions ys) := by
  rw [mergeResolutions, List.foldl_append, foldl_union]
  rfl

/-- The files with resolutions are in the order in which they first had some. -/
theorem keys_mergeResolutions (results : List EntrypointResult) :
    (mergeResolutions results).keys = firstsBy id (results.flatMap (·.resolutions.keys)) := by
  induction results with
  | nil => rfl
  | cons r rest ih =>
    rw [mergeResolutions_cons, InsertionMap.keys_union, ih, List.flatMap_cons,
      ← firstsBy_append (r.resolutions.keys) (rest.flatMap _), InsertionMap.firstsBy_keys]

/-- The resolutions of a file are those that it was given last. -/
theorem get?_mergeResolutions_eq (results : List EntrypointResult) (href : String) :
    (mergeResolutions results).get? href = results.reverse.findSome? (·.resolutions.get? href) := by
  induction results with
  | nil => rfl
  | cons r rest ih =>
    rw [mergeResolutions_cons, InsertionMap.get?_union, ih, List.reverse_cons, List.findSome?_append,
      List.findSome?_singleton]

/-- **Results may be merged in parts.**  The report on two lists of results is that on the reports on each of them, in
the same order.  A report has each file, and each skip for one specifier in one file, as it comes first, in the order in
which they first come; and of each file with resolutions, in the order in which it first has some, those that it is
given last.  Nothing is lost and nothing is made up. -/
theorem merge_append (xs ys : List EntrypointResult) (first second : String) :
    merge (xs ++ ys) = merge [(merge xs).asResult first, (merge ys).asResult second] ∧
    KeepsFirsts id (xs.flatMap (·.files)) (merge xs).files ∧
    KeepsFirsts Skip.key (xs.flatMap (·.skips)) (merge xs).skips ∧
    KeepsFirsts id (xs.flatMap (·.resolutions.keys)) (merge xs).resolutions.keys ∧
    ∀ href, (merge xs).resolutions.get? href = xs.reverse.findSome? (·.resolutions.get? href) := by
  have hfiles : mergeFiles (xs ++ ys) = firstsBy id (mergeFiles xs ++ mergeFiles ys) := by
    rw [mergeFiles_eq, mergeFiles_eq, mergeFiles_eq, List.flatMap_append, firstsBy_append]
  have hskips : mergeSkips (xs ++ ys) = firstsBy Skip.key (mergeSkips xs ++ mergeSkips ys) := by
    rw [mergeSkips_eq, mergeSkips_eq, mergeSkips_eq, List.flatMap_append, firstsBy_append]
  have hpair : ∀ r r' : EntrypointResult, merge [r, r'] = ⟨firstsBy id (r.files ++ r'.files),
      firstsBy Skip.key (r.skips ++ r'.skips), r.resolutions.union r'.resolutions⟩ := by
    intro r r'
    rw [merge, mergeFiles_eq, mergeSkips_eq, mergeResolutions, List.foldl_cons, InsertionMap.empty_union]
    simp
  refine ⟨?_, keepsFirsts_firstsBy _, keepsFirsts_firstsBy _, ?_, get?_mergeResolutions_eq xs⟩
  · rw [hpair, merge, hfiles, hskips, mergeResolutions_append]
    rfl
  · rw [merge, keys_mergeResolutions]
    exact keepsFirsts_firstsBy _

end Report

end ModuleReach
