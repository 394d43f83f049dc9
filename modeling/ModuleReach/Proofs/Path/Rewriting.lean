import ModuleReach.Proofs.Path.Canonical

/-!
# Canonical paths as texts

The canonical path that a text names can also be had by rewriting the text: backslashes become slashes, the slashes at the front
become one, the path is collapsed as any relative or absolute path is, and the front is made one slash again.  A relative path
that climbs keeps its `..` when it is collapsed, and two slashes at the front may stay; that this does not come up here is why
rewriting and following the segments one by one agree.

## Main definitions

* `Path.segments` — the segments of an absolute path, as it is written.
* `Path.IsCanonical` — the texts that are canonical paths.
* `Path.collapse` — a relative or absolute path without the segments that lead nowhere.
* `Path.rewrite` — the canonical path that a text names, by rewriting it.

## Main results

* `Path.isCanonical_iff` — canonical paths are the written lists of ordinary names.
* `Path.rewrite_eq` — rewriting gives the canonical path.
* `Path.normalize_normal` — what holds of the canonical path that a text names.
-/

namespace ModuleReach

namespace Text

/-- The pieces of a text are made of its characters. -/
theorem mem_of_mem_splitWhere {p : Char → Bool} {s piece : List Char} {c : Char} (hpiece : piece ∈ splitWhere p s)
    (hc : c ∈ piece) : c ∈ s := by
  induction s generalizing piece with
  | nil => simp_all
  | cons d rest ih =>
    rw [splitWhere] at hpiece
    split at hpiece
    · rcases List.mem_cons.1 hpiece with rfl | hpiece
      · cases hc
      · exact List.mem_cons_of_mem d (ih hpiece hc)
    · cases hsplit : splitWhere p rest with
      | nil => exact absurd hsplit (splitWhere_ne_nil p rest)
      | cons first others =>
        rw [hsplit, List.modifyHead_cons, List.mem_cons] at hpiece
        rcases hpiece with rfl | hpiece
        · rcases List.mem_cons.1 hc with rfl | hc
          · exact List.mem_cons_self
          · exact List.mem_cons_of_mem d (ih (by simp [hsplit]) hc)
        · exact List.mem_cons_of_mem d (ih (by simp [hsplit, hpiece]) hc)

theorem splitWhere_cons_of_pos {p : Char → Bool} {c : Char} (hc : p c = true) (rest : List Char) :
    splitWhere p (c :: rest) = [] :: splitWhere p rest := by
  rw [splitWhere, if_pos hc]

/-- Two kinds of separators that are the same in a text split it in the same way. -/
theorem splitWhere_congr {p q : Char → Bool} {s : List Char} (h : ∀ c ∈ s, p c = q c) :
    splitWhere p s = splitWhere q s := by
  induction s with
  | nil => rfl
  | cons c rest ih => rw [splitWhere, splitWhere, h c (by simp), ih fun d hd => h d (by simp [hd])]

end Text

namespace Path

open Text

/-! ### Canonical paths -/

/-- The segments of an absolute path, as it is written: the pieces behind its slashes.  The root has none. -/
def segments (path : String) : List (List Char) :=
  if path = "/" then [] else (splitWhere (· == '/') path.toList).tail

/-- A canonical path, as a text. -/
structure IsCanonical (path : String) : Prop where
  rooted : path.toList.head? = some '/'
  backslash_not_mem : '\\' ∉ path.toList
  ordinary : ∀ segment ∈ segments path, segment ≠ [] ∧ segment ≠ ['.'] ∧ segment ≠ ['.', '.']
  bare : path ≠ "/" → path.toList.getLast? ≠ some '/'

theorem ofList_render_eq_root_iff {names : List (List Char)} (h : ∀ s ∈ names, IsSegment s) :
    String.ofList (render names) = "/" ↔ names = [] := by
  constructor
  · intro hroot
    have hnames : canonical "/".toList = names := by
      rw [← hroot, String.toList_ofList, canonical_render h]
    exact hnames.symm
  · rintro rfl
    rfl

/-- The segments of a path that is written from ordinary names are these names. -/
theorem segments_render {names : List (List Char)} (h : ∀ s ∈ names, IsSegment s) :
    segments (String.ofList (render names)) = names := by
  rw [segments]
  split
  · rename_i hroot
    exact ((ofList_render_eq_root_iff h).1 hroot).symm
  · rename_i hroot
    have hne : names ≠ [] := fun hnil => hroot ((ofList_render_eq_root_iff h).2 hnil)
    have hslash : ∀ c ∈ render names, (c == '/') = isSeparator c := by
      intro c hc
      have hback : c ≠ '\\' := fun heq => backslash_not_mem_render h (heq ▸ hc)
      simp [isSeparator, hback]
    rw [String.toList_ofList, splitWhere_congr hslash, splitWhere_render hne h, List.tail_cons]

/-- Ordinary names that are written as a path make a canonical path. -/
theorem isCanonical_render {names : List (List Char)} (h : ∀ s ∈ names, IsSegment s) :
    IsCanonical (String.ofList (render names)) where
  rooted := by
    obtain ⟨rest, hrest⟩ := exists_render names
    rw [String.toList_ofList, hrest, List.head?_cons]
  backslash_not_mem := by
    rw [String.toList_ofList]
    exact backslash_not_mem_render h
  ordinary := by
    rw [segments_render h]
    intro segment hsegment
    obtain ⟨hempty, hdot, hdots, -⟩ := h segment hsegment
    exact ⟨hempty, hdot, hdots⟩
  bare := by
    intro hroot
    rw [String.toList_ofList]
    exact getLast?_render (fun hnil => hroot ((ofList_render_eq_root_iff h).2 hnil)) h

/-- The canonical paths are the written lists of ordinary names. -/
theorem isCanonical_iff {path : String} :
    IsCanonical path ↔ ∃ names, (∀ s ∈ names, IsSegment s) ∧ path = String.ofList (render names) := by
  constructor
  · intro h
    by_cases hroot : path = "/"
    · exact ⟨[], by simp, hroot⟩
    · obtain ⟨rest, hrest⟩ := List.head?_eq_some_iff.1 h.rooted
      have hsegments : segments path = splitWhere (· == '/') rest := by
        rw [segments, if_neg hroot, hrest]
        rfl
      refine ⟨segments path, ?_, ?_⟩
      · intro s hs
        obtain ⟨hempty, hdot, hdots⟩ := h.ordinary s hs
        refine ⟨hempty, hdot, hdots, ?_⟩
        rw [hsegments] at hs
        intro c hc
        have hslash : (c == '/') = false := not_of_mem_splitWhere hs c hc
        have hback : c ≠ '\\' := by
          rintro rfl
          apply h.backslash_not_mem
          rw [hrest]
          exact List.mem_cons_of_mem _ (mem_of_mem_splitWhere hs hc)
        simpa [isSeparator, hback] using hslash
      · rw [hsegments, render_eq_joinWith (splitWhere_ne_nil _ rest), joinWith_splitWhere, ← hrest, String.ofList_toList]
  · rintro ⟨names, hnames, rfl⟩
    exact isCanonical_render hnames

/-- The canonical path that a text names is one. -/
theorem isCanonical_normalize (path : String) : IsCanonical (normalize path) :=
  isCanonical_render fun _ => mem_canonical

/-- The texts that name themselves are the canonical paths. -/
theorem normalize_eq_self_iff {path : String} : normalize path = path ↔ IsCanonical path := by
  constructor
  · intro h
    rw [← h]
    exact isCanonical_normalize path
  · intro h
    obtain ⟨names, hnames, rfl⟩ := isCanonical_iff.1 h
    rw [normalize, String.toList_ofList, canonical_render hnames]

/-! ### Rewriting a text -/

/-- One segment more on the stack of a path that is collapsed.  A `..` stays if there is nothing that it could drop: after
another `..`, and at the front of a relative path. -/
def collapseStep (absolute : Bool) (stack : List (List Char)) (segment : List Char) : List (List Char) :=
  if segment = [] ∨ segment = ['.'] then stack
  else if segment = ['.', '.'] then
    if (stack = [] ∧ absolute = false) ∨ stack.head? = some ['.', '.'] then segment :: stack else stack.tail
  else segment :: stack

/-- The slashes at the front of a path, which stay: one, two, or one again for three and more. -/
def slashes : List Char → List Char
  | '/' :: '/' :: '/' :: _ => ['/']
  | '/' :: '/' :: _ => ['/', '/']
  | '/' :: _ => ['/']
  | _ => []

/-- A path without the segments that lead nowhere, and without those that a `..` takes back. -/
def collapse (path : List Char) : List Char :=
  let absolute : Bool := path.head? = some '/'
  let names := ((splitWhere (· == '/') path).foldl (collapseStep absolute) []).reverse
  let text := slashes path ++ joinWith ['/'] names
  if text = [] then ['.'] else text

/-- A text without the slashes at its front. -/
def dropSlashes (path : List Char) : List Char := path.dropWhile (· == '/')

/-- The canonical path that a text names, by rewriting it. -/
def rewrite (path : String) : String :=
  String.ofList ('/' :: dropSlashes (collapse ('/' :: dropSlashes (replaceChar '\\' ['/'] path.toList))))

theorem splitWhere_replaceChar (s : List Char) :
    splitWhere (· == '/') (replaceChar '\\' ['/'] s) = splitWhere isSeparator s := by
  induction s with
  | nil => rfl
  | cons c rest ih =>
    have hcons : replaceChar '\\' ['/'] (c :: rest) =
        (if c = '\\' then ['/'] else [c]) ++ replaceChar '\\' ['/'] rest := List.flatMap_cons
    rw [hcons, splitWhere, ← ih]
    by_cases hback : c = '\\'
    · subst hback
      rfl
    · simp [hback, splitWhere, isSeparator]

/-- The slashes at the front add nothing to a stack. -/
theorem foldl_dropSlashes {step : List (List Char) → List Char → List (List Char)}
    (hstep : ∀ stack, step stack [] = stack) (stack : List (List Char)) (s : List Char) :
    (splitWhere (· == '/') (dropSlashes s)).foldl step stack = (splitWhere (· == '/') s).foldl step stack := by
  induction s with
  | nil => rfl
  | cons c rest ih =>
    by_cases hc : c = '/'
    · subst hc
      rw [splitWhere_cons_of_pos rfl, List.foldl_cons, hstep, ← ih]
      rfl
    · rw [dropSlashes, List.dropWhile_cons_of_neg (by simpa using hc)]

/-- On an absolute path `..` always drops a segment, since none stays. -/
theorem foldl_collapseStep {stack : List (List Char)} (hstack : ['.', '.'] ∉ stack) (segments : List (List Char)) :
    segments.foldl (collapseStep true) stack = segments.foldl descend stack := by
  induction segments generalizing stack with
  | nil => rfl
  | cons segment rest ih =>
    have hhead : stack.head? ≠ some ['.', '.'] := fun h => hstack (List.mem_of_mem_head? h)
    have hstep : collapseStep true stack segment = descend stack segment := by
      simp [collapseStep, descend, hhead]
    have hnext : ['.', '.'] ∉ descend stack segment := by
      unfold descend
      split
      · exact hstack
      · split
        · exact fun h => hstack (List.mem_of_mem_tail h)
        · rename_i hdots
          simp [hstack, Ne.symm hdots]
    rw [List.foldl_cons, List.foldl_cons, hstep, ih hnext]

theorem dropSlashes_eq_self {s : List Char} (h : s.head? ≠ some '/') : dropSlashes s = s := by
  cases s with
  | nil => rfl
  | cons c rest => exact List.dropWhile_cons_of_neg (by simpa using h)

theorem head?_dropSlashes (s : List Char) : (dropSlashes s).head? ≠ some '/' := by
  rw [dropSlashes]
  intro h
  have hnot := List.head?_dropWhile_not (· == '/') s
  rw [h] at hnot
  simp at hnot

/-- One slash is at the front of a text that has lost its slashes there and gets one. -/
theorem slashes_cons_dropSlashes (s : List Char) : slashes ('/' :: dropSlashes s) = ['/'] := by
  cases hs : dropSlashes s with
  | nil => rfl
  | cons c rest =>
    have hc : c ≠ '/' := by simpa [hs] using head?_dropSlashes s
    unfold slashes
    split <;> simp_all

theorem dropSlashes_joinWith {names : List (List Char)} (h : ∀ s ∈ names, IsSegment s) :
    dropSlashes (joinWith ['/'] names) = joinWith ['/'] names := by
  apply dropSlashes_eq_self
  cases names with
  | nil => simp [joinWith]
  | cons name rest =>
    obtain ⟨hempty, -, -, hseparator⟩ := h name (by simp)
    obtain ⟨c, name, rfl⟩ := List.exists_cons_of_ne_nil hempty
    have hc : c ≠ '/' := by
      rintro rfl
      cases hseparator '/' (by simp)
    cases rest <;> simpa [joinWith] using hc

/-- Rewriting a text gives the canonical path that it names. -/
theorem rewrite_eq (path : String) : rewrite path = normalize path := by
  let s := replaceChar '\\' ['/'] path.toList
  have hnames : ((splitWhere (· == '/') ('/' :: dropSlashes s)).foldl (collapseStep true) []).reverse =
      canonical path.toList := by
    rw [splitWhere_cons_of_pos rfl, foldl_collapseStep List.not_mem_nil, List.foldl_cons, descend_nil,
      foldl_dropSlashes descend_nil, splitWhere_replaceChar]
    rfl
  have hcollapse : collapse ('/' :: dropSlashes s) = '/' :: joinWith ['/'] (canonical path.toList) := by
    have habsolute : decide (('/' :: dropSlashes s).head? = some '/') = true := by simp
    rw [collapse, slashes_cons_dropSlashes, habsolute, hnames]
    rfl
  have hdrop : dropSlashes (collapse ('/' :: dropSlashes s)) = joinWith ['/'] (canonical path.toList) := by
    rw [hcollapse]
    exact dropSlashes_joinWith fun _ => mem_canonical
  rw [rewrite, hdrop, normalize]
  cases hcanonical : canonical path.toList with
  | nil => rfl
  | cons name rest => rw [render_eq_joinWith (List.cons_ne_nil name rest)]

/-! ### The canonical path that a text names -/

/-- **The canonical path that a text names.**  For every text it is what rewriting the text gives, and it is found by following
the segments of the text, between slashes and backslashes, on a stack that is empty at first and that `..` pops, unless it is
empty.  It is a canonical path, and the texts that name themselves are just the canonical paths, so that taking the canonical
path twice changes nothing.  And whatever path is read relative to a directory, it does not matter whether the directory is in
canonical form. -/
theorem normalize_normal (path : String) :
    normalize path = rewrite path ∧
    normalize path = String.ofList (render ((splitWhere isSeparator path.toList).foldl descend []).reverse) ∧
    IsCanonical (normalize path) ∧ (normalize path = path ↔ IsCanonical path) ∧
    normalize (normalize path) = normalize path ∧
    ∀ further, normalize (join (normalize path) further) = normalize (join path further) := by
  refine ⟨(rewrite_eq path).symm, rfl, isCanonical_normalize path, normalize_eq_self_iff, normalize_normalize path, ?_⟩
  intro further
  exact normalize_join_congr (normalize_normalize path) further

end Path

end ModuleReach
