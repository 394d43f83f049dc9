import ModuleReach.Path

/-!
# Canonical paths are fixed

Writing the segments of a canonical path and reading them back gives the same segments, so the
canonical form of a canonical path is the path itself, and the last segment is its name.

## Main results

* `Path.canonical_render` — the segments that are read from a written canonical path.
* `Path.normalize_normalize` — normalizing twice is normalizing once.
* `Path.render_concat`, `Path.getLast?_render` — how a written canonical path ends.
* `Path.stackOf_joinChars`, `Path.normalize_join` — where a relative path leads from a directory.
* `Path.name_normalize_join` — the name of a segment in a directory.
-/

namespace ModuleReach

namespace Text

/-- A text without separators is one piece. -/
theorem splitWhere_of_forall_not {p : Char → Bool} {s : List Char}
    (hs : ∀ c ∈ s, p c = false) : splitWhere p s = [s] := by
  induction s with
  | nil => rfl
  | cons c rest ih =>
    have hc : p c = false := hs c (by simp)
    rw [splitWhere, ih fun d hd => hs d (by simp [hd])]
    simp [hc]

/-- Texts on both sides of a separator are split on their own. -/
theorem splitWhere_append_cons {p : Char → Bool} (s : List Char) {c : Char} (rest : List Char)
    (hc : p c = true) : splitWhere p (s ++ c :: rest) = splitWhere p s ++ splitWhere p rest := by
  induction s with
  | nil => simp [splitWhere, hc]
  | cons d s ih =>
    have hne : splitWhere p s ≠ [] := splitWhere_ne_nil p s
    rw [List.cons_append, splitWhere, splitWhere, ih]
    cases hs : splitWhere p s with
    | nil => exact absurd hs hne
    | cons first pieces =>
      split <;> simp_all

end Text

namespace Path

open Text

/-- An ordinary name goes on top of the stack. -/
theorem descend_of_isSegment {stack : List (List Char)} {segment : List Char}
    (h : IsSegment segment) : descend stack segment = segment :: stack := by
  obtain ⟨hne, hdot, hdots, -⟩ := h
  simp [descend, hne, hdot, hdots]

/-- A segment that stays where it is leaves the stack alone. -/
@[simp] theorem descend_nil (stack : List (List Char)) : descend stack [] = stack := by
  simp [descend]

theorem foldl_descend_of_isSegment {segments : List (List Char)}
    (h : ∀ s ∈ segments, IsSegment s) (stack : List (List Char)) :
    segments.foldl descend stack = segments.reverse ++ stack := by
  induction segments generalizing stack with
  | nil => rfl
  | cons segment segments ih =>
    rw [List.foldl_cons, descend_of_isSegment (h segment (by simp)),
      ih fun s hs => h s (by simp [hs])]
    simp

/-- Ordinary names with a slash before each are split into these names, after an empty piece. -/
theorem splitWhere_flatMap {segments : List (List Char)} (h : ∀ s ∈ segments, IsSegment s)
    {first : List Char} (hfirst : ∀ c ∈ first, isSeparator c = false) :
    splitWhere isSeparator (first ++ segments.flatMap ('/' :: ·)) = first :: segments := by
  induction segments generalizing first with
  | nil =>
    rw [List.flatMap_nil, List.append_nil]
    exact splitWhere_of_forall_not hfirst
  | cons segment segments ih =>
    have hsegment : IsSegment segment := h segment (by simp)
    rw [List.flatMap_cons, List.cons_append, splitWhere_append_cons first _ rfl,
      splitWhere_of_forall_not hfirst, ih (fun s hs => h s (by simp [hs])) hsegment.2.2.2]
    rfl

/-- Ordinary names that are written as a path are split into these names, after an empty piece. -/
theorem splitWhere_render {names : List (List Char)} (hne : names ≠ []) (h : ∀ s ∈ names, IsSegment s) :
    splitWhere isSeparator (render names) = [] :: names := by
  cases names with
  | nil => contradiction
  | cons name names => exact splitWhere_flatMap h fun c hc => absurd hc List.not_mem_nil

/-- The segments read from a written canonical path are those that were written. -/
theorem canonical_render {segments : List (List Char)} (h : ∀ s ∈ segments, IsSegment s) :
    canonical (render segments) = segments := by
  by_cases hne : segments = []
  · subst hne
    rfl
  · rw [canonical, stackOf, splitWhere_render hne h, List.foldl_cons, descend_nil, foldl_descend_of_isSegment h,
      List.append_nil, List.reverse_reverse]

/-- The segments of the canonical form of a path are those of the path. -/
@[simp] theorem canonical_normalize (path : String) :
    canonical (normalize path).toList = canonical path.toList := by
  rw [normalize, String.toList_ofList]
  exact canonical_render fun s hs => mem_canonical hs

/-- The canonical form of a canonical path is the path itself. -/
@[simp] theorem normalize_normalize (path : String) : normalize (normalize path) = normalize path := by
  rw [normalize, canonical_normalize, normalize]

/-- Two texts name one canonical path exactly if it has the same segments. -/
theorem normalize_eq_iff {path path' : String} :
    normalize path = normalize path' ↔ canonical path.toList = canonical path'.toList := by
  constructor
  · intro h
    rw [← canonical_normalize path, h, canonical_normalize]
  · intro h
    rw [normalize, h, normalize]

theorem exists_render (segments : List (List Char)) : ∃ rest, render segments = '/' :: rest := by
  cases segments with
  | nil => exact ⟨[], rfl⟩
  | cons segment segments => exact ⟨_, rfl⟩

/-- A canonical path is absolute. -/
theorem exists_toList_normalize (path : String) : ∃ rest, (normalize path).toList = '/' :: rest := by
  rw [normalize, String.toList_ofList]
  exact exists_render _

/-! ### Written paths -/

/-- A written canonical path that is not the root, with its last segment. -/
theorem render_concat (names : List (List Char)) (name : List Char) :
    render (names ++ [name]) = names.flatMap ('/' :: ·) ++ '/' :: name := by
  cases names <;> simp [render]

/-- Names that are joined by slashes, with one more in front, are a written path. -/
theorem render_eq_joinWith {names : List (List Char)} (hne : names ≠ []) :
    render names = '/' :: joinWith ['/'] names := by
  induction names with
  | nil => contradiction
  | cons name rest ih =>
    cases rest with
    | nil => simp [render, joinWith]
    | cons next rest =>
      rw [joinWith, List.append_assoc, List.singleton_append, ← ih (by simp)]
      rfl

/-- A canonical path has no backslash. -/
theorem backslash_not_mem_render {names : List (List Char)} (h : ∀ s ∈ names, IsSegment s) :
    '\\' ∉ render names := by
  intro hmem
  cases names with
  | nil => simp [render] at hmem
  | cons name names =>
    obtain ⟨segment, hsegment, hmem⟩ := List.mem_flatMap.1 hmem
    rcases List.mem_cons.1 hmem with hslash | hmem
    · cases hslash
    · cases (h segment hsegment).2.2.2 _ hmem

/-- A canonical path does not end in a slash, unless it is the root. -/
theorem getLast?_render {names : List (List Char)} (hne : names ≠ []) (h : ∀ s ∈ names, IsSegment s) :
    (render names).getLast? ≠ some '/' := by
  intro hlast
  obtain ⟨front, name, rfl⟩ := List.eq_nil_or_concat names |>.resolve_left hne
  have hname : IsSegment name := h name (by simp)
  obtain ⟨c, hc⟩ := List.getLast?_isSome.2 hname.1 |> Option.isSome_iff_exists.1
  rw [List.concat_eq_append, render_concat, List.getLast?_append, List.getLast?_cons, hc] at hlast
  cases hlast
  cases hname.2.2.2 '/' (List.mem_of_getLast? hc)

/-! ### Relative paths -/

/-- What comes after a slash is followed segment by segment. -/
theorem stackOf_append_cons (front path : List Char) :
    stackOf (front ++ '/' :: path) = (splitWhere isSeparator path).foldl descend (stackOf front) := by
  rw [stackOf, splitWhere_append_cons _ _ rfl, List.foldl_append]
  rfl

/-- A relative path is followed segment by segment, from where the directory leads. -/
theorem stackOf_joinChars (base : List Char) {path : List Char} (h : path.head? ≠ some '/') :
    stackOf (joinChars base path) = (splitWhere isSeparator path).foldl descend (stackOf base) := by
  unfold joinChars
  rw [if_neg h]
  split
  · rename_i hbase
    rcases hbase with rfl | hbase
    · rfl
    · -- The slash at the end of the directory adds an empty segment, which stays where it is.
      obtain ⟨front, rfl⟩ := List.getLast?_eq_some_iff.1 hbase
      have hfront : stackOf (front ++ ['/']) = stackOf front := by
        rw [stackOf_append_cons]
        rfl
      rw [List.append_assoc, List.singleton_append, stackOf_append_cons, hfront]
  · exact stackOf_append_cons base path

/-- Reading a relative path from a directory is putting it after the directory and a slash. -/
theorem normalize_join (base : String) {path : String} (h : path.toList.head? ≠ some '/') :
    normalize (join base path) = normalize (base ++ "/" ++ path) := by
  have hslash : (base ++ "/" ++ path).toList = base.toList ++ '/' :: path.toList := by simp
  rw [normalize_eq_iff, join, String.toList_ofList, canonical, canonical, hslash, stackOf_joinChars _ h,
    stackOf_append_cons]

/-- What comes after a slash is read from the canonical form of what is before it. -/
theorem normalize_append_slash_congr {base base' : String} (h : normalize base = normalize base') (path : String) :
    normalize (base ++ "/" ++ path) = normalize (base' ++ "/" ++ path) := by
  have hslash : ∀ base : String, (base ++ "/" ++ path).toList = base.toList ++ '/' :: path.toList := by simp
  rw [normalize_eq_iff, canonical, canonical, List.reverse_inj] at h
  rw [normalize_eq_iff, canonical, canonical, hslash, hslash, stackOf_append_cons, stackOf_append_cons, h]

/-- The canonical path of a segment in a directory ends with the segment. -/
theorem canonical_join_of_isSegment (directory : String) {segment : String} (h : IsSegment segment.toList) :
    canonical (join directory segment).toList = canonical directory.toList ++ [segment.toList] := by
  have hslash : segment.toList.head? ≠ some '/' := by
    intro hhead
    cases h.2.2.2 '/' (List.mem_of_mem_head? hhead)
  rw [join, String.toList_ofList, canonical, stackOf_joinChars _ hslash, splitWhere_of_forall_not h.2.2.2,
    List.foldl_cons, descend_of_isSegment h]
  exact List.reverse_cons

/-- A name in two directories is one place only if these are one. -/
theorem normalize_eq_of_join {directory directory' : String} {segment : String} (hsegment : IsSegment segment.toList)
    (h : normalize (join directory segment) = normalize (join directory' segment)) :
    normalize directory = normalize directory' := by
  rw [normalize_eq_iff, canonical_join_of_isSegment _ hsegment, canonical_join_of_isSegment _ hsegment] at h
  exact normalize_eq_iff.2 (List.append_cancel_right h)

/-- Where a path leads from a directory depends on the canonical form of the directory alone. -/
theorem normalize_join_congr {directory directory' : String} (h : normalize directory = normalize directory')
    (path : String) : normalize (join directory path) = normalize (join directory' path) := by
  rw [normalize_eq_iff] at h ⊢
  rw [join, join, String.toList_ofList, String.toList_ofList]
  by_cases habsolute : path.toList.head? = some '/'
  · rw [joinChars, joinChars, if_pos habsolute, if_pos habsolute]
  · rw [canonical, canonical, List.reverse_inj] at h
    rw [canonical, canonical, stackOf_joinChars _ habsolute, stackOf_joinChars _ habsolute, h]

/-! ### The name of a path -/

/-- What follows the last slash of a path that ends with a name is the name. -/
theorem nameChars_append (front : List Char) {name : List Char} (h : ∀ c ∈ name, c ≠ '/') :
    nameChars (front ++ '/' :: name) = name := by
  unfold nameChars
  have hreverse : (front ++ '/' :: name).reverse = name.reverse ++ '/' :: front.reverse := by simp
  rw [hreverse, List.takeWhile_append_of_pos (by simpa using h), List.takeWhile_cons_of_neg (by simp),
    List.append_nil, List.reverse_reverse]

/-- The name of a written canonical path is its last segment. -/
theorem nameChars_render (segments : List (List Char)) {segment : List Char} (h : IsSegment segment) :
    nameChars (render (segments ++ [segment])) = segment := by
  have hslash : ∀ c ∈ segment, c ≠ '/' := by
    rintro c hc rfl
    cases h.2.2.2 '/' hc
  rw [render_concat, nameChars_append _ hslash]

/-- The name of a segment in a directory is the segment. -/
theorem name_normalize_join (directory : String) {segment : String} (h : IsSegment segment.toList) :
    name (normalize (join directory segment)) = segment := by
  rw [name, normalize, String.toList_ofList, canonical_join_of_isSegment _ h, nameChars_render _ h,
    String.ofList_toList]

/-- The name of a canonical path has no separators. -/
theorem not_isSeparator_of_mem_name {path : String} {c : Char} (h : c ∈ (name (normalize path)).toList) :
    isSeparator c = false := by
  rw [name, normalize, String.toList_ofList, String.toList_ofList] at h
  rcases List.eq_nil_or_concat (canonical path.toList) with hnil | ⟨segments, segment, hsegments⟩
  · rw [hnil] at h
    cases h
  · have hmem : segment ∈ canonical path.toList := by simp [hsegments]
    have hsegment : IsSegment segment := mem_canonical hmem
    rw [hsegments, List.concat_eq_append, nameChars_render _ hsegment] at h
    exact hsegment.2.2.2 c h

/-- A name with an extension of three or more characters is a segment. -/
theorem isSegment_append {name extension : List Char} (hname : ∀ c ∈ name, isSeparator c = false)
    (hextension : ∀ c ∈ extension, isSeparator c = false) (hlength : 3 ≤ extension.length) :
    IsSegment (name ++ extension) := by
  have hlong : 3 ≤ (name ++ extension).length := by
    rw [List.length_append]
    omega
  refine ⟨?_, ?_, ?_, ?_⟩
  · intro h
    simp [h] at hlong
  · intro h
    simp [h] at hlong
  · intro h
    simp [h] at hlong
  · intro c hc
    rcases List.mem_append.1 hc with hc | hc
    · exact hname c hc
    · exact hextension c hc

end Path

end ModuleReach
