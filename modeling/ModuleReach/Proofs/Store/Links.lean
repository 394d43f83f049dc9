import ModuleReach.FileTree
import Mathlib.Data.List.Nodup
import Mathlib.Data.List.Perm.Subperm
import Mathlib.Data.Nat.Find

/-!
# Where paths lead

A path is followed step by step, and the target of a link is followed in its place.  In a tree without circular
links each link leads somewhere, and then each path does, to one location, with no link on the way to it.

The bound for nested expansions of links is never reached in such a tree.  The rank of a link is the least bound
with which its target is followed.  If a link has a rank above zero, its target is not followed with a bound one
less because of some link of the rank below.  So no rank is left out up to that of any link, and there are more
links than that rank says.

## Main definitions

* `FileTree.Leads` — where a path leads, whatever number of links it takes.
* `FileTree.LinksLead` — the trees without circular links.
* `FileTree.LinkFree` — the locations with no link on the way to them.
* `FileTree.links` — the locations of the links in a tree.
* `FileTree.IsRank` — how deep the expansion of a link is nested.

## Main results

* `FileTree.leads_of_follow?`, `FileTree.exists_follow?_of_leads` — a path leads to the location that is found
  with some bound.
* `FileTree.IsRank.lt_linkCount` — no link takes as many nested expansions as there are links.
* `FileTree.exists_follow?` — each path is followed with the bound that a tree is given.
-/

namespace ModuleReach.FileTree

/-! ### Following a path -/

/-- A step to an entry of a directory. -/
def IsName (name : String) : Prop := ¬ (name = "" ∨ name = ".") ∧ name ≠ ".."

instance (name : String) : Decidable (IsName name) :=
  inferInstanceAs (Decidable (¬ (name = "" ∨ name = ".") ∧ name ≠ ".."))

/-- Where the steps of a path lead from a location.  The steps of a link's target are taken in its place; any other
step is taken as it is, also into what does not exist. -/
inductive Leads (t : FileTree) : Location → List String → Location → Prop
  | done {base : Location} : Leads t base [] base
  | stay {base place : Location} {name : String} {rest : List String} : name = "" ∨ name = "." →
      Leads t base rest place → Leads t base (name :: rest) place
  | up {base place : Location} {rest : List String} : Leads t base.dropLast rest place →
      Leads t base (".." :: rest) place
  | down {base place : Location} {name : String} {rest : List String} : IsName name →
      (∀ target, t.node? (base ++ [name]) ≠ some (.link target)) → Leads t (base ++ [name]) rest place →
      Leads t base (name :: rest) place
  | link {base aim place : Location} {name target : String} {rest : List String} : IsName name →
      t.node? (base ++ [name]) = some (.link target) → Leads t (origin base target) (steps target) aim →
      Leads t aim rest place → Leads t base (name :: rest) place

section Follow

variable {t : FileTree} {depth : ℕ} {base place : Location} {name target : String} {rest : List String}

theorem follow?_nil : t.follow? depth base [] = some base := by rw [follow?]

theorem follow?_stay (h : name = "" ∨ name = ".") :
    t.follow? depth base (name :: rest) = t.follow? depth base rest := by
  rw [follow?.eq_def]
  exact if_pos h

theorem follow?_up : t.follow? depth base (".." :: rest) = t.follow? depth base.dropLast rest := by
  rw [follow?.eq_def]
  rfl

theorem follow?_down (hname : IsName name) (h : ∀ target, t.node? (base ++ [name]) ≠ some (.link target)) :
    t.follow? depth base (name :: rest) = t.follow? depth (base ++ [name]) rest := by
  rw [follow?.eq_def]
  dsimp only
  rw [if_neg hname.1, if_neg hname.2]
  split
  · rename_i heq
    exact absurd heq (h _)
  · rename_i heq
    exact absurd heq (h _)
  · rfl

theorem follow?_link (hname : IsName name) (h : t.node? (base ++ [name]) = some (.link target)) :
    t.follow? (depth + 1) base (name :: rest) =
      (t.follow? depth (origin base target) (steps target)).bind (t.follow? (depth + 1) · rest) := by
  rw [follow?.eq_def]
  dsimp only
  rw [if_neg hname.1, if_neg hname.2, h]

/-- What is no link with a bound of zero, nor with a greater one, is none. -/
theorem forall_ne_link {node? : Option FileTree} (hzero : ∀ target, node? = some (.link target) → depth = 0 → False)
    (hsucc : ∀ target less, node? = some (.link target) → depth = Nat.succ less → False) :
    ∀ target, node? ≠ some (.link target) := by
  intro target hlink
  cases depth with
  | zero => exact hzero target hlink rfl
  | succ depth => exact hsucc target depth hlink rfl

/-- What is found leads there. -/
theorem leads_of_follow? {names : List String} (h : t.follow? depth base names = some place) :
    t.Leads base names place := by
  fun_induction follow? t depth base names generalizing place with
  | case1 =>
    cases h
    exact .done
  | case2 depth base name rest hstay ih => exact .stay hstay (ih h)
  | case3 depth base rest _ ih => exact .up (ih h)
  | case4 => cases h
  | case5 base name rest hstay hup target depth hlink ihaim ih =>
    obtain ⟨aim, haim, hplace⟩ := Option.bind_eq_some_iff.1 h
    exact .link ⟨hstay, hup⟩ hlink (ihaim haim) (ih aim hplace)
  | case6 base name rest hstay hup depth hzero hsucc ih =>
    exact .down ⟨hstay, hup⟩ (forall_ne_link hzero hsucc) (ih h)

/-- A greater bound changes nothing. -/
theorem follow?_succ {names : List String} (h : t.follow? depth base names = some place) :
    t.follow? (depth + 1) base names = some place := by
  fun_induction follow? t depth base names generalizing place with
  | case1 => rw [follow?_nil, h]
  | case2 depth base name rest hstay ih => rw [follow?_stay hstay, ih h]
  | case3 depth base rest _ ih => rw [follow?_up, ih h]
  | case4 => cases h
  | case5 base name rest hstay hup target depth hlink ihaim ih =>
    obtain ⟨aim, haim, hplace⟩ := Option.bind_eq_some_iff.1 h
    rw [follow?_link ⟨hstay, hup⟩ hlink, ihaim haim]
    exact ih aim hplace
  | case6 base name rest hstay hup depth hzero hsucc ih =>
    rw [follow?_down ⟨hstay, hup⟩ (forall_ne_link hzero hsucc), ih h]

theorem follow?_mono {depth' : ℕ} {names : List String} (hle : depth ≤ depth')
    (h : t.follow? depth base names = some place) : t.follow? depth' base names = some place := by
  induction hle with
  | refl => exact h
  | step _ ih => exact follow?_succ ih

/-- Where a path leads is found with some bound. -/
theorem exists_follow?_of_leads {names : List String} (h : t.Leads base names place) :
    ∃ depth, t.follow? depth base names = some place := by
  induction h with
  | done => exact ⟨0, follow?_nil⟩
  | stay hstay _ ih =>
    obtain ⟨depth, hdepth⟩ := ih
    exact ⟨depth, (follow?_stay hstay).trans hdepth⟩
  | up _ ih =>
    obtain ⟨depth, hdepth⟩ := ih
    exact ⟨depth, follow?_up.trans hdepth⟩
  | down hname hnone _ ih =>
    obtain ⟨depth, hdepth⟩ := ih
    exact ⟨depth, (follow?_down hname hnone).trans hdepth⟩
  | link hname hlink _ _ ihaim ih =>
    obtain ⟨depth, hdepth⟩ := ihaim
    obtain ⟨depth', hdepth'⟩ := ih
    refine ⟨max depth depth' + 1, ?_⟩
    rw [follow?_link hname hlink, follow?_mono (Nat.le_max_left _ _) hdepth]
    exact follow?_mono (Nat.le_succ_of_le (Nat.le_max_right _ _)) hdepth'

/-- A path leads to one location. -/
theorem Leads.unique {place' : Location} {names : List String} (h : t.Leads base names place)
    (h' : t.Leads base names place') : place = place' := by
  obtain ⟨depth, hdepth⟩ := exists_follow?_of_leads h
  obtain ⟨depth', hdepth'⟩ := exists_follow?_of_leads h'
  have hmax := follow?_mono (Nat.le_max_left depth depth') hdepth
  rw [follow?_mono (Nat.le_max_right depth depth') hdepth'] at hmax
  exact (Option.some.inj hmax).symm

end Follow

/-! ### Locations without links -/

/-- A location with no link on the way to it, nor at it. -/
def LinkFree (t : FileTree) (location : Location) : Prop :=
  ∀ above, above <+: location → ∀ target, t.node? above ≠ some (.link target)

theorem LinkFree.of_prefix {t : FileTree} {above location : Location} (h : t.LinkFree location)
    (habove : above <+: location) : t.LinkFree above :=
  fun _ hp => h _ (hp.trans habove)

/-- From a location without links a path leads to one. -/
theorem Leads.linkFree {t : FileTree} {base place : Location} {names : List String}
    (h : t.Leads base names place) (hbase : t.LinkFree base) : t.LinkFree place := by
  induction h with
  | done => exact hbase
  | stay _ _ ih => exact ih hbase
  | up _ ih => exact ih (hbase.of_prefix (List.dropLast_prefix _))
  | down _ hnone _ ih =>
    refine ih fun above habove => ?_
    rcases List.prefix_concat_iff.1 habove with rfl | habove
    · exact hnone
    · exact hbase above habove
  | @link base aim place name target rest _ _ _ _ ihaim ih =>
    refine ih (ihaim ?_)
    unfold origin
    split
    · exact hbase.of_prefix List.nil_prefix
    · exact hbase

/-! ### The links in a tree -/

mutual

/-- The locations of the links in a tree. -/
def links : FileTree → List Location
  | .file _ => []
  | .link _ => [[]]
  | .directory entries => linksList entries

/-- The locations of the links below the entries of a directory. -/
def linksList : List (String × FileTree) → List Location
  | [] => []
  | (name, t) :: rest => (links t).map (name :: ·) ++ linksList rest

end

mutual

theorem length_links : ∀ t : FileTree, t.links.length = t.linkCount
  | .file _ => rfl
  | .link _ => rfl
  | .directory entries => length_linksList entries

theorem length_linksList : ∀ entries : List (String × FileTree), (linksList entries).length = linkCountList entries
  | [] => rfl
  | (name, t) :: rest => by
    rw [linksList, linkCountList, List.length_append, List.length_map, length_links t, length_linksList rest]

end

theorem mem_linksList {name : String} {entries : List (String × FileTree)} {t : FileTree} {location : Location}
    (hchild : child? name entries = some t) (h : location ∈ t.links) : name :: location ∈ linksList entries := by
  induction entries with
  | nil => cases hchild
  | cons entry rest ih =>
    obtain ⟨n, t'⟩ := entry
    rw [linksList, List.mem_append]
    rw [child?] at hchild
    split at hchild
    · rename_i hname
      cases hchild
      subst hname
      exact .inl (List.mem_map_of_mem h)
    · exact .inr (ih hchild)

/-- A link stands at one of these locations. -/
theorem mem_links {t : FileTree} {location : Location} {target : String}
    (h : t.node? location = some (.link target)) : location ∈ t.links := by
  induction location generalizing t with
  | nil =>
    rw [node?, Option.some.injEq] at h
    subst h
    exact List.mem_singleton_self _
  | cons name rest ih =>
    cases t with
    | file content => cases h
    | link target => cases h
    | directory entries =>
      obtain ⟨child, hchild, hnode⟩ := Option.bind_eq_some_iff.1 h
      exact mem_linksList hchild (ih hnode)

/-! ### Ranks -/

/-- Where the link at a location leads, inside the expansion of at most `depth` others. -/
def aim? (t : FileTree) (depth : ℕ) (location : Location) : Option Location :=
  match t.node? location with
  | some (.link target) => t.follow? depth (origin location.dropLast target) (steps target)
  | _ => none

/-- The rank of the link at a location is the least bound with which its target is followed. -/
def IsRank (t : FileTree) (location : Location) (depth : ℕ) : Prop :=
  (∃ place, t.aim? depth location = some place) ∧ ∀ less < depth, t.aim? less location = none

/-- A tree without circular links: each link leads somewhere. -/
def LinksLead (t : FileTree) : Prop :=
  ∀ location target, t.node? location = some (.link target) →
    ∃ place, t.Leads (origin location.dropLast target) (steps target) place

section Rank

variable {t : FileTree} {depth : ℕ} {location : Location} {target : String}

theorem aim?_eq (h : t.node? location = some (.link target)) :
    t.aim? depth location = t.follow? depth (origin location.dropLast target) (steps target) := by
  rw [aim?, h]

theorem aim?_concat {base : Location} {name : String} (h : t.node? (base ++ [name]) = some (.link target)) :
    t.aim? depth (base ++ [name]) = t.follow? depth (origin base target) (steps target) := by
  rw [aim?_eq h, List.dropLast_concat]

/-- Only links lead anywhere. -/
theorem mem_links_of_aim? {place : Location} (h : t.aim? depth location = some place) : location ∈ t.links := by
  unfold aim? at h
  split at h
  · rename_i hlink
    exact mem_links hlink
  · cases h

/-- A tree has no circular links if all of them are followed with some bound. -/
theorem linksLead_of_aim? (h : ∀ location ∈ t.links, ∃ place, t.aim? depth location = some place) :
    t.LinksLead := by
  intro location target hlink
  obtain ⟨place, hplace⟩ := h location (mem_links hlink)
  rw [aim?_eq hlink] at hplace
  exact ⟨place, leads_of_follow? hplace⟩

theorem aim?_mono {less : ℕ} {place : Location} (hle : less ≤ depth) (h : t.aim? less location = some place) :
    t.aim? depth location = some place := by
  unfold aim? at h ⊢
  split at h
  · exact follow?_mono hle h
  · cases h

/-- A link that fails with one bound and not with the next has this rank. -/
theorem isRank_succ {place : Location} (h : t.aim? (depth + 1) location = some place)
    (hless : t.aim? depth location = none) : t.IsRank location (depth + 1) := by
  refine ⟨⟨place, h⟩, fun less hlt => ?_⟩
  rw [Option.eq_none_iff_forall_ne_some]
  intro place' hplace'
  cases hless.symm.trans (aim?_mono (Nat.le_of_lt_succ hlt) hplace')

theorem IsRank.unique {depth' : ℕ} (h : t.IsRank location depth) (h' : t.IsRank location depth') :
    depth = depth' := by
  obtain ⟨⟨place, hplace⟩, hleast⟩ := h
  obtain ⟨⟨place', hplace'⟩, hleast'⟩ := h'
  rcases Nat.lt_trichotomy depth depth' with hlt | heq | hlt
  · cases hplace.symm.trans (hleast' depth hlt)
  · exact heq
  · cases hplace'.symm.trans (hleast depth' hlt)

/-- What is followed with one more only meets a link whose rank is the bound. -/
theorem exists_isRank_of_follow? {base place : Location} {names : List String}
    (hnone : t.follow? depth base names = none) (hsome : t.follow? (depth + 1) base names = some place) :
    ∃ location, t.IsRank location depth := by
  fun_induction follow? t depth base names with
  | case1 => cases hnone
  | case2 depth base name rest hstay ih =>
    rw [follow?_stay hstay] at hsome
    exact ih hnone hsome
  | case3 depth base rest _ ih =>
    rw [follow?_up] at hsome
    exact ih hnone hsome
  | case4 base name rest hstay hup target hlink =>
    rw [follow?_link ⟨hstay, hup⟩ hlink] at hsome
    obtain ⟨aim, haim, -⟩ := Option.bind_eq_some_iff.1 hsome
    exact ⟨base ++ [name], ⟨aim, (aim?_concat hlink).trans haim⟩, fun less hlt => absurd hlt (Nat.not_lt_zero _)⟩
  | case5 base name rest hstay hup target depth hlink _ ih =>
    rw [follow?_link ⟨hstay, hup⟩ hlink] at hsome
    obtain ⟨aim, haim, hplace⟩ := Option.bind_eq_some_iff.1 hsome
    -- Either this link is the one, or it leads to the same place with both bounds, and one behind it is.
    cases hless : t.follow? depth (origin base target) (steps target) with
    | none =>
      exact ⟨base ++ [name], isRank_succ ((aim?_concat hlink).trans haim) ((aim?_concat hlink).trans hless)⟩
    | some aim' =>
      rw [hless] at hnone
      cases haim.symm.trans (follow?_succ hless)
      exact ih aim hnone hplace
  | case6 base name rest hstay hup depth hzero hsucc ih =>
    rw [follow?_down ⟨hstay, hup⟩ (forall_ne_link hzero hsucc)] at hsome
    exact ih hnone hsome

/-- Below the rank of a link there is a link of each rank, so there are more links than the rank is. -/
theorem IsRank.exists_links (h : t.IsRank location depth) :
    ∃ locations : List Location, locations.Nodup ∧ locations.length = depth + 1 ∧ locations ⊆ t.links ∧
      ∀ location ∈ locations, ∃ less ≤ depth, t.IsRank location less := by
  induction depth generalizing location with
  | zero =>
    obtain ⟨place, hplace⟩ := h.1
    exact ⟨[location], List.nodup_singleton _, rfl, by simpa using mem_links_of_aim? hplace,
      by simpa using h⟩
  | succ depth ih =>
    obtain ⟨place, hplace⟩ := h.1
    have hless := h.2 depth (Nat.lt_succ_self depth)
    have hmem := mem_links_of_aim? hplace
    obtain ⟨below, hbelow⟩ : ∃ below, t.IsRank below depth := by
      unfold aim? at hplace hless
      split at hplace
      · rename_i hlink
        rw [hlink] at hless
        exact exists_isRank_of_follow? hless hplace
      · cases hplace
    obtain ⟨locations, hnodup, hlength, hsubset, hranks⟩ := ih hbelow
    refine ⟨location :: locations, List.nodup_cons.2 ⟨?_, hnodup⟩, by rw [List.length_cons, hlength],
      List.cons_subset.2 ⟨hmem, hsubset⟩, ?_⟩
    · intro hlocation
      obtain ⟨less, hle, hrank⟩ := hranks location hlocation
      have heq := hrank.unique h
      omega
    · rw [List.forall_mem_cons]
      refine ⟨⟨depth + 1, Nat.le_refl _, h⟩, fun other hother => ?_⟩
      obtain ⟨less, hle, hrank⟩ := hranks other hother
      exact ⟨less, Nat.le_succ_of_le hle, hrank⟩

/-- No link takes as many nested expansions as there are links. -/
theorem IsRank.lt_linkCount (h : t.IsRank location depth) : depth < t.linkCount := by
  obtain ⟨locations, hnodup, hlength, hsubset, -⟩ := h.exists_links
  have hle := (List.subperm_of_subset hnodup hsubset).length_le
  rw [length_links, hlength] at hle
  exact hle

/-- A link that leads somewhere has a rank. -/
theorem exists_isRank {place : Location} (hlink : t.node? location = some (.link target))
    (h : t.Leads (origin location.dropLast target) (steps target) place) : ∃ depth, t.IsRank location depth := by
  obtain ⟨depth, hdepth⟩ := exists_follow?_of_leads h
  have hfind : ∃ depth, (t.aim? depth location).isSome := ⟨depth, by rw [aim?_eq hlink, hdepth]; rfl⟩
  refine ⟨Nat.find hfind, Option.isSome_iff_exists.1 (Nat.find_spec hfind), fun less hlt => ?_⟩
  exact Option.not_isSome_iff_eq_none.1 (Nat.find_min hfind hlt)

end Rank

/-- Each path is followed if the target of each link is followed with a smaller bound. -/
theorem exists_follow?_of_aim? {t : FileTree} {depth : ℕ}
    (h : ∀ location target, t.node? location = some (.link target) →
      ∃ less < depth, ∃ place, t.aim? less location = some place)
    (base : Location) (names : List String) : ∃ place, t.follow? depth base names = some place := by
  fun_induction follow? t depth base names with
  | case1 => exact ⟨_, rfl⟩
  | case2 _ _ _ _ _ ih => exact ih h
  | case3 _ _ _ _ ih => exact ih h
  | case4 base name rest _ _ target hlink =>
    obtain ⟨less, hlt, -⟩ := h _ _ hlink
    exact absurd hlt (Nat.not_lt_zero _)
  | case5 base name rest _ _ target depth hlink _ ih =>
    obtain ⟨less, hlt, aim, haim⟩ := h _ _ hlink
    have hdepth := aim?_mono (Nat.le_of_lt_succ hlt) haim
    rw [aim?_concat hlink] at hdepth
    rw [hdepth]
    exact ih aim h
  | case6 _ _ _ _ _ _ _ _ ih => exact ih h

/-- In a tree without circular links each path is followed with the bound that the tree is given. -/
theorem exists_follow? {t : FileTree} (h : t.LinksLead) (base : Location) (names : List String) :
    ∃ place, t.follow? t.linkCount base names = some place := by
  refine exists_follow?_of_aim? (fun location target hlink => ?_) base names
  obtain ⟨place, hplace⟩ := h location target hlink
  obtain ⟨depth, hdepth⟩ := exists_isRank hlink hplace
  exact ⟨depth, hdepth.lt_linkCount, hdepth.1⟩

end ModuleReach.FileTree
