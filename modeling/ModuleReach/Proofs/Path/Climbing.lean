import Mathlib.Data.List.Nodup
import ModuleReach.Proofs.Path.Ancestors
import ModuleReach.Proofs.Path.Rewriting

/-!
# Climbing to the root

Who goes from a path to its directory, again and again, until the path is `/`, need not come to an end: the directory of the
empty text is the empty text, and that of `//` is `//`.  But the directory of a canonical path other than the root is a
shorter canonical path.  So the climb from a canonical path ends, with the root, and it visits the ancestors of the path.

## Main definitions

* `Path.Climbs` — a climb that ends, with the paths that it visits.

## Main results

* `Path.directory_render`, `Path.IsCanonical.directory` — the directory of a canonical path.
* `Path.climbs_iff` — the climb from a canonical path visits its ancestors.
* `Path.ancestors_eq_inits`, `Path.pairwise_length_ancestors` — the ancestors, and that each is shorter than those before it.
-/

namespace ModuleReach.Path

open Text

/-- A climb that ends: it visits a path, and then, unless this is the root, what the climb from its directory visits. -/
inductive Climbs : String → List String → Prop
  | root : Climbs "/" ["/"]
  | up {path : String} {above : List String} (hroot : path ≠ "/") (habove : Climbs (directory path) above) :
    Climbs path (path :: above)

/-- A climb visits its first path first. -/
theorem Climbs.exists_cons {path : String} {visited : List String} (h : Climbs path visited) :
    ∃ rest, visited = path :: rest := by
  cases h with
  | root => exact ⟨[], rfl⟩
  | up _ _ => exact ⟨_, rfl⟩

/-- There is just one climb from a path, if any. -/
theorem Climbs.unique {path : String} {visited visited' : List String} (h : Climbs path visited)
    (h' : Climbs path visited') : visited = visited' := by
  induction h generalizing visited' with
  | root =>
    cases h' with
    | root => rfl
    | up hroot _ => exact absurd rfl hroot
  | up hroot _ ih =>
    cases h' with
    | root => exact absurd rfl hroot
    | up _ habove' => rw [ih habove']

/-- A climb ends at the root. -/
theorem Climbs.getLast?_eq {path : String} {visited : List String} (h : Climbs path visited) :
    visited.getLast? = some "/" := by
  induction h with
  | root => rfl
  | up _ habove ih =>
    obtain ⟨rest, rfl⟩ := habove.exists_cons
    rw [List.getLast?_cons_cons, ih]

/-- No climb from a path that is its own directory ends, unless the path is the root. -/
theorem not_climbs_of_directory_eq {path : String} (hroot : path ≠ "/") (h : directory path = path)
    (visited : List String) : ¬ Climbs path visited := by
  intro hclimbs
  cases hclimbs with
  | root => exact hroot rfl
  | @up _ above _ habove =>
    rw [h] at habove
    have hsame : above = path :: above := habove.unique (.up hroot (h.symm ▸ habove))
    exact absurd (congrArg List.length hsame) (by simp)

/-- The empty text and two slashes are such paths. -/
example : directory "" = "" ∧ directory "//" = "//" := by decide +kernel

/-! ### The directory of a canonical path -/

/-- The directory of a written canonical path is the path without its last name. -/
theorem directory_render {names : List (List Char)} {name : List Char} (h : ∀ s ∈ names ++ [name], IsSegment s) :
    directory (String.ofList (render (names ++ [name]))) = String.ofList (render names) := by
  have hnames : ∀ s ∈ names, IsSegment s := fun s hs => h s (by simp [hs])
  have hname : IsSegment name := h name (by simp)
  have hslash : ∀ c ∈ name.reverse, (c != '/') = true := by
    intro c hc
    have hseparator := hname.2.2.2 c (List.mem_reverse.1 hc)
    simp_all [isSeparator]
  have hhead : ((render (names ++ [name])).reverse).dropWhile (· != '/') = '/' :: (names.flatMap ('/' :: ·)).reverse := by
    rw [render_concat, List.reverse_append, List.reverse_cons, List.append_assoc, List.dropWhile_append_of_pos hslash]
    rfl
  have hbare : ((names.flatMap ('/' :: ·)).reverse).dropWhile (· == '/') = (names.flatMap ('/' :: ·)).reverse := by
    apply dropSlashes_eq_self
    rw [List.head?_reverse]
    cases names with
    | nil => simp
    | cons first rest => exact getLast?_render (List.cons_ne_nil first rest) hnames
  rw [directory, String.toList_ofList, hhead, List.dropWhile_cons_of_pos rfl, hbare]
  cases names with
  | nil => rfl
  | cons first rest =>
    rw [if_neg (by simp), List.reverse_reverse]
    rfl

theorem length_render_lt {names : List (List Char)} {name : List Char} (h : IsSegment name) :
    (render names).length < (render (names ++ [name])).length := by
  have hpos : 0 < name.length := List.length_pos_iff.2 h.1
  rw [render_concat, List.length_append, List.length_cons]
  cases names with
  | nil =>
    simp only [render, List.length_singleton, List.flatMap_nil, List.length_nil]
    omega
  | cons first rest =>
    rw [render]
    · omega
    · simp

/-- The directory of a canonical path that is not the root is a canonical path, too, and shorter. -/
theorem IsCanonical.directory {path : String} (h : IsCanonical path) (hroot : path ≠ "/") :
    IsCanonical (Path.directory path) ∧ (Path.directory path).length < path.length := by
  obtain ⟨names, hnames, rfl⟩ := isCanonical_iff.1 h
  rcases List.eq_nil_or_concat names with rfl | ⟨above, name, rfl⟩
  · exact absurd rfl hroot
  · rw [List.concat_eq_append] at hnames ⊢
    rw [directory_render hnames, String.length_ofList, String.length_ofList]
    exact ⟨isCanonical_render fun s hs => hnames s (by simp [hs]), length_render_lt (hnames name (by simp))⟩

/-! ### Climbs from canonical paths -/

/-- A climb from a canonical path visits shorter and shorter paths. -/
theorem Climbs.pairwise_length {path : String} {visited : List String} (h : Climbs path visited)
    (hpath : IsCanonical path) : visited.Pairwise fun d d' => d'.length < d.length := by
  induction h with
  | root => simp
  | up hroot habove ih =>
    obtain ⟨hcanonical, hlt⟩ := hpath.directory hroot
    obtain ⟨rest, rfl⟩ := habove.exists_cons
    have hpairwise := ih hcanonical
    refine List.pairwise_cons.2 ⟨?_, hpairwise⟩
    intro d hd
    rcases List.mem_cons.1 hd with rfl | hd
    · exact hlt
    · have hshorter := (List.pairwise_cons.1 hpairwise).1 d hd
      omega

/-- The climb from a written canonical path drops one name after the other. -/
theorem climbs_climb {stack : List (List Char)} (h : ∀ s ∈ stack, IsSegment s) :
    Climbs (String.ofList (render stack.reverse)) ((climb stack).map fun t => String.ofList (render t.reverse)) := by
  induction stack with
  | nil => exact .root
  | cons name above ih =>
    have hnames : ∀ s ∈ above.reverse ++ [name], IsSegment s := fun s hs => h s (by simpa [or_comm] using hs)
    rw [climb, List.map_cons, List.reverse_cons]
    refine .up ?_ ?_
    · rw [Ne, ofList_render_eq_root_iff hnames]
      simp
    · rw [directory_render hnames]
      exact ih fun s hs => h s (by simp [hs])

/-- The climb from a canonical path ends, and visits its ancestors. -/
theorem climbs_iff {path : String} {visited : List String} :
    Climbs (normalize path) visited ↔ visited = ancestors path := by
  have hclimbs : Climbs (normalize path) (ancestors path) :=
    climbs_climb fun s hs => mem_canonical (List.mem_reverse.2 hs)
  constructor
  · intro h
    exact h.unique hclimbs
  · rintro rfl
    exact hclimbs

/-! ### The list of ancestors -/

theorem segments_normalize (path : String) : segments (normalize path) = canonical path.toList :=
  segments_render fun _ => mem_canonical

/-- The ancestors of a path have its first names, fewer and fewer of them. -/
theorem ancestors_eq_inits (path : String) :
    ancestors path = (segments (normalize path)).inits.reverse.map fun names => String.ofList (render names) := by
  rw [segments_normalize, canonical, List.inits_reverse, List.reverse_reverse, List.map_map, ancestors, climb_eq_tails]
  rfl

theorem length_ancestors (path : String) : (ancestors path).length = (segments (normalize path)).length + 1 := by
  rw [ancestors_eq_inits, List.length_map, List.length_reverse, List.length_inits]

/-- Each ancestor is shorter than those before it. -/
theorem pairwise_length_ancestors (path : String) : (ancestors path).Pairwise fun d d' => d'.length < d.length :=
  (climbs_iff.2 rfl).pairwise_length (isCanonical_normalize path)

theorem nodup_ancestors (path : String) : (ancestors path).Nodup := by
  refine (pairwise_length_ancestors path).imp ?_
  rintro d d' hlt rfl
  exact absurd hlt (lt_irrefl _)

theorem getLast?_ancestors (path : String) : (ancestors path).getLast? = some "/" :=
  (climbs_iff.2 rfl : Climbs (normalize path) _).getLast?_eq

/-- There is only one ancestor of a length. -/
theorem eq_of_length_eq {path d d' : String} (hd : d ∈ ancestors path) (hd' : d' ∈ ancestors path)
    (h : d.length = d'.length) : d = d' := by
  have hnodup : ((ancestors path).map String.length).Nodup := by
    rw [List.Nodup, List.pairwise_map]
    exact (pairwise_length_ancestors path).imp fun hlt => Nat.ne_of_gt hlt
  exact List.inj_on_of_nodup_map hnodup hd hd' h

end ModuleReach.Path
