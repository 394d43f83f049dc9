import ModuleReach.Source.Entries

/-!
# Sources in blocks

A block is a part of a source, ended by a line break, that speaks of at most one entry: whatever a form finds in it is that
entry and ends in the block, and if there is an entry some form finds it at the front.  What stands around a block does not
matter.

A form may find the entry of a block more than once, and more than one form may find it.  All of these are found between the
first character of the block and its last one, so they are neighbours once they are in order, and only one is left when
repeats are dropped.

## Main definitions

* `Source.Tight` — whatever is found in a part of a source is one entry and ends in that part.
* `Source.Block` — the blocks; `Source.blocksCells` puts some together.
* `Source.Inside`, `Source.fronts` — where something is found in blocks, and what is found at their fronts.
* `Source.Located` — all that is found in blocks, in order.

## Main results

* `Source.exists_findAll_append` — what a form finds in a tight part of a source does not depend on the rest.
* `Source.eraseDups_located` — the entries that are found in blocks are the entries of the blocks.
-/

namespace ModuleReach.Source

/-! ### Tight parts of a source -/

/-- What is found at the front of a text is a certain entry and leaves some number of characters alone. -/
def Keeps (request? : Option Entry) (limit : Nat) (cs : List Cell) : Prop :=
  ∀ form ∈ forms, ∀ before entry after, form before cs = some (entry, after) →
    request? = some entry ∧ limit ≤ after.length

/-- What is found in a part of a source, anywhere before `rest`, is a certain entry and leaves some number of characters
alone. -/
def Tight (request? : Option Entry) (limit : Nat) : List Cell → List Cell → Prop
  | [], _ => True
  | c :: part, rest => Keeps request? limit (c :: part ++ rest) ∧ Tight request? limit part rest

@[simp] theorem tight_nil (request? : Option Entry) (limit : Nat) (rest : List Cell) :
    Tight request? limit [] rest := trivial

theorem tight_append {request? : Option Entry} {limit : Nat} {part part' rest : List Cell}
    (h : Tight request? limit part (part' ++ rest)) (h' : Tight request? limit part' rest) :
    Tight request? limit (part ++ part') rest := by
  induction part with
  | nil => exact h'
  | cons c part ih =>
    refine ⟨?_, ih h.2⟩
    have hfront := h.1
    rw [← List.append_assoc] at hfront
    exact hfront

/-- The character before what is left of a text, once its first character is passed. -/
theorem lastShown_cons (c : Cell) (part : List Cell) (before : Option Char) :
    ((c :: part).getLast?.map Cell.shown).or before = (part.getLast?.map Cell.shown).or (some c.shown) := by
  cases hpart : part.getLast? <;> simp [List.getLast?_cons, hpart]

/-- What a form finds in a tight part of a source comes first, and then the form goes on behind that part. -/
theorem exists_findAll_append {form : Form} (hform : form ∈ forms) {request? : Option Entry}
    {part rest : List Cell} (h : Tight request? rest.length part rest) {skip : Nat}
    (hskip : skip ≤ part.length) (before : Option Char) (offset : Nat) :
    ∃ found, findAll form skip before offset (part ++ rest) =
        found ++ findAll form 0 ((part.getLast?.map Cell.shown).or before) (offset + part.length) rest ∧
      ∀ x ∈ found, offset ≤ x.1 ∧ x.1 < offset + part.length ∧ request? = some x.2 := by
  induction part generalizing skip before offset with
  | nil =>
    have hzero : skip = 0 := Nat.le_zero.1 hskip
    subst hzero
    exact ⟨[], rfl, by simp⟩
  | cons c part ih =>
    have hoffset : offset + (c :: part).length = offset + 1 + part.length := by
      rw [List.length_cons]
      omega
    have hlater : ∀ found : List (Nat × Entry), (∀ x ∈ found, offset + 1 ≤ x.1 ∧
        x.1 < offset + 1 + part.length ∧ request? = some x.2) →
        ∀ x ∈ found, offset ≤ x.1 ∧ x.1 < offset + (c :: part).length ∧ request? = some x.2 := by
      intro found hfound x hx
      obtain ⟨hlow, hhigh, hentry⟩ := hfound x hx
      rw [hoffset]
      exact ⟨by omega, hhigh, hentry⟩
    rw [lastShown_cons, hoffset]
    cases skip with
    | succ skip =>
      obtain ⟨found, heq, hfound⟩ :=
        ih h.2 (Nat.le_of_succ_le_succ hskip) (some c.shown) (offset + 1)
      refine ⟨found, ?_, hoffset ▸ hlater found hfound⟩
      rw [List.cons_append, findAll, heq]
    | zero =>
      cases hmatch : form before (c :: (part ++ rest)) with
      | none =>
        obtain ⟨found, heq, hfound⟩ := ih h.2 (Nat.zero_le _) (some c.shown) (offset + 1)
        refine ⟨found, ?_, hoffset ▸ hlater found hfound⟩
        rw [List.cons_append, findAll, hmatch]
        exact heq
      | some match' =>
        obtain ⟨entry, after⟩ := match'
        obtain ⟨hentry, hafter⟩ := h.1 form hform before entry after hmatch
        -- What the form skips ends in the part, since the match does.
        have hskip' : (part ++ rest).length - after.length ≤ part.length := by
          rw [List.length_append]
          omega
        obtain ⟨found, heq, hfound⟩ := ih h.2 hskip' (some c.shown) (offset + 1)
        refine ⟨(offset, entry) :: found, ?_, ?_⟩
        · rw [List.cons_append, findAll, hmatch]
          dsimp only
          rw [heq, List.cons_append]
        · intro x hx
          rcases List.mem_cons.1 hx with rfl | hx
          · exact ⟨Nat.le_refl _, by dsimp only; omega, hentry⟩
          · exact (hoffset ▸ hlater found hfound) x hx

/-- What a form finds at the front comes first. -/
theorem mem_findAll_front {form : Form} {before : Option Char} {cs after : List Cell} {entry : Entry}
    (h : form before cs = some (entry, after)) (hne : cs ≠ []) (offset : Nat) :
    (offset, entry) ∈ findAll form 0 before offset cs := by
  cases cs with
  | nil => exact absurd rfl hne
  | cons c cs =>
    rw [findAll, h]
    exact List.mem_cons_self

/-! ### Blocks -/

/-- A place where every keyword may begin: the beginning of a source, or of a line. -/
def IsLineStart (before : Option Char) : Prop := ∀ c ∈ before, c = '\n'

theorem IsLineStart.beginsWord {before : Option Char} (h : IsLineStart before) :
    beginsWord before = true := by
  cases before with
  | none => rfl
  | some c =>
    cases h c rfl
    rfl

theorem IsLineStart.beginsKeyword {before : Option Char} (h : IsLineStart before) :
    beginsKeyword before = true := by
  cases before with
  | none => rfl
  | some c =>
    cases h c rfl
    rfl

/-- A part of a source that speaks of at most one entry, whatever stands around it. -/
structure Block where
  cells : List Cell
  /-- The entry of which the block speaks. -/
  request? : Option Entry
  /-- A block ends with a line break. -/
  ends : cells.getLast? = some ⟨'\n', '\n'⟩
  /-- What is found in the block is its entry and ends in the block. -/
  tight : ∀ rest, Tight request? rest.length cells rest
  /-- The entry is found at the front. -/
  found : ∀ entry, request? = some entry → ∀ before rest, IsLineStart before →
    ∃ form ∈ forms, ∃ after, form before (cells ++ rest) = some (entry, after)

namespace Block

theorem length_pos (b : Block) : 0 < b.cells.length := by
  have hends := b.ends
  cases hcells : b.cells with
  | nil =>
    rw [hcells] at hends
    cases hends
  | cons c cs => exact Nat.zero_lt_succ _

theorem append_ne_nil (b : Block) (rest : List Cell) : b.cells ++ rest ≠ [] := by
  have hpos := b.length_pos
  intro h
  rw [(List.append_eq_nil_iff.1 h).1] at hpos
  exact absurd hpos (Nat.lt_irrefl 0)

/-- After a block a line starts. -/
theorem isLineStart (b : Block) (before : Option Char) :
    IsLineStart ((b.cells.getLast?.map Cell.shown).or before) := by
  rw [b.ends]
  intro c hc
  cases hc
  rfl

end Block

/-- Blocks one after the other. -/
def blocksCells (bs : List Block) : List Cell := bs.flatMap Block.cells

theorem blocksCells_cons (b : Block) (bs : List Block) :
    blocksCells (b :: bs) = b.cells ++ blocksCells bs := List.flatMap_cons

/-- Whether something is found in one of some blocks and is its entry; the first block begins at `offset`. -/
def Inside : List Block → (offset : Nat) → Nat × Entry → Prop
  | [], _, _ => False
  | b :: bs, offset, x =>
    (offset ≤ x.1 ∧ x.1 < offset + b.cells.length ∧ b.request? = some x.2) ∨
      Inside bs (offset + b.cells.length) x

/-- The entries of some blocks, each with the offset of the front of its block. -/
def fronts : List Block → (offset : Nat) → List (Nat × Entry)
  | [], _ => []
  | b :: bs, offset => (b.request?.map (offset, ·)).toList ++ fronts bs (offset + b.cells.length)

/-- What a form finds in blocks is inside of them. -/
theorem inside_of_findAll {form : Form} (hform : form ∈ forms) {bs : List Block} {before : Option Char}
    {offset : Nat} {x : Nat × Entry} (h : x ∈ findAll form 0 before offset (blocksCells bs)) :
    Inside bs offset x := by
  induction bs generalizing before offset with
  | nil => cases h
  | cons b bs ih =>
    obtain ⟨found, heq, hfound⟩ :=
      exists_findAll_append hform (b.tight (blocksCells bs)) (Nat.zero_le _) before offset
    rw [blocksCells_cons, heq, List.mem_append] at h
    rcases h with h | h
    · exact .inl (hfound x h)
    · exact .inr (ih h)

/-- The entry of each block is found at its front. -/
theorem exists_mem_findAll {bs : List Block} {before : Option Char} (hbefore : IsLineStart before)
    {offset : Nat} {x : Nat × Entry} (h : x ∈ fronts bs offset) :
    ∃ form ∈ forms, x ∈ findAll form 0 before offset (blocksCells bs) := by
  induction bs generalizing before offset with
  | nil => cases h
  | cons b bs ih =>
    rw [blocksCells_cons]
    rcases List.mem_append.1 h with h | h
    · rw [Option.mem_toList, Option.map_eq_some_iff] at h
      obtain ⟨entry, hentry, rfl⟩ := h
      obtain ⟨form, hform, after, hmatch⟩ := b.found entry hentry before (blocksCells bs) hbefore
      exact ⟨form, hform, mem_findAll_front hmatch (b.append_ne_nil _) offset⟩
    · obtain ⟨form, hform, hmem⟩ := ih (b.isLineStart before) h
      obtain ⟨found, heq, -⟩ :=
        exists_findAll_append hform (b.tight (blocksCells bs)) (Nat.zero_le _) before offset
      refine ⟨form, hform, ?_⟩
      rw [heq]
      exact List.mem_append_right _ hmem

/-! ### Putting what is found in order -/

theorem Inside.offset_le {bs : List Block} {offset : Nat} {x : Nat × Entry} (h : Inside bs offset x) :
    offset ≤ x.1 := by
  induction bs generalizing offset with
  | nil => exact absurd h id
  | cons b bs ih =>
    rcases h with h | h
    · exact h.1
    · exact Nat.le_trans (Nat.le_add_right _ _) (ih h)

theorem Inside.of_mem_fronts {bs : List Block} {offset : Nat} {x : Nat × Entry}
    (h : x ∈ fronts bs offset) : Inside bs offset x := by
  induction bs generalizing offset with
  | nil => cases h
  | cons b bs ih =>
    rcases List.mem_append.1 h with h | h
    · rw [Option.mem_toList, Option.map_eq_some_iff] at h
      obtain ⟨entry, hentry, rfl⟩ := h
      have hpos := b.length_pos
      exact .inl ⟨Nat.le_refl _, by dsimp only; omega, hentry⟩
    · exact .inr (ih h)

/-- What is in order is cut in two by a bound. -/
theorem exists_cut {found : List (Nat × Entry)} (h : found.Pairwise fun x y => x.1 ≤ y.1) (bound : Nat) :
    ∃ low high, found = low ++ high ∧ (∀ x ∈ low, x.1 < bound) ∧ ∀ x ∈ high, bound ≤ x.1 := by
  induction h with
  | nil => exact ⟨[], [], rfl, by simp, by simp⟩
  | @cons x rest hx _ ih =>
    by_cases hbound : x.1 < bound
    · obtain ⟨low, high, rfl, hlow, hhigh⟩ := ih
      refine ⟨x :: low, high, rfl, ?_, hhigh⟩
      rw [List.forall_mem_cons]
      exact ⟨hbound, hlow⟩
    · refine ⟨[], x :: rest, rfl, by simp, ?_⟩
      rw [List.forall_mem_cons]
      exact ⟨Nat.le_of_not_lt hbound, fun y hy => Nat.le_trans (Nat.le_of_not_lt hbound) (hx y hy)⟩

/-- Repeats at the front are dropped. -/
theorem eraseDups_replicate_append (n : Nat) (entry : Entry) (entries : List Entry) :
    (List.replicate (n + 1) entry ++ entries).eraseDups =
      entry :: (entries.filter fun e => !e == entry).eraseDups := by
  have hdrop : (List.replicate n entry).filter (fun e => !e == entry) = [] := by
    rw [List.filter_replicate_of_neg (by simp)]
  rw [List.replicate_succ, List.cons_append, List.eraseDups_cons, List.filter_append, hdrop,
    List.nil_append]

/-- What is found in blocks, in order: nothing but their entries, and what is found at their fronts is among it. -/
structure Located (bs : List Block) (offset : Nat) (found : List (Nat × Entry)) : Prop where
  sorted : found.Pairwise fun x y => x.1 ≤ y.1
  inside : ∀ x ∈ found, Inside bs offset x
  fronts : ∀ x ∈ fronts bs offset, x ∈ found

/-- What is found in the first block comes first, and is its entry; the rest is found in the other blocks. -/
theorem Located.exists_split {b : Block} {bs : List Block} {offset : Nat} {found : List (Nat × Entry)}
    (h : Located (b :: bs) offset found) :
    ∃ low high, found = low ++ high ∧ (∀ x ∈ low, b.request? = some x.2) ∧
      (∀ entry, b.request? = some entry → low ≠ []) ∧ Located bs (offset + b.cells.length) high := by
  obtain ⟨low, high, rfl, hlow, hhigh⟩ := exists_cut h.sorted (offset + b.cells.length)
  refine ⟨low, high, rfl, ?_, ?_, (List.pairwise_append.1 h.sorted).2.1, ?_, ?_⟩
  · intro x hx
    rcases h.inside x (List.mem_append_left _ hx) with hfirst | hlater
    · exact hfirst.2.2
    · exact absurd (hlow x hx) (Nat.not_lt_of_le hlater.offset_le)
  · -- The entry of the block is found at its front, which lies below the bound.
    intro entry hentry
    have hmem : (offset, entry) ∈ Source.fronts (b :: bs) offset := by
      rw [Source.fronts, hentry]
      exact List.mem_append_left _ (List.mem_singleton_self _)
    have hpos := b.length_pos
    rcases List.mem_append.1 (h.fronts _ hmem) with hfront | hfront
    · exact List.ne_nil_of_mem hfront
    · have hge : offset + b.cells.length ≤ offset := hhigh _ hfront
      omega
  · intro x hx
    rcases h.inside x (List.mem_append_right _ hx) with hfirst | hlater
    · exact absurd hfirst.2.1 (Nat.not_lt_of_le (hhigh x hx))
    · exact hlater
  · intro x hx
    have hle := (Inside.of_mem_fronts hx).offset_le
    rcases List.mem_append.1 (h.fronts x (List.mem_append_right _ hx)) with hfront | hfront
    · exact absurd (hlow x hfront) (Nat.not_lt_of_le hle)
    · exact hfront

/-- The entries of what is found in blocks are those of the blocks, up to repeats.  The induction is on the blocks; `keep`
drops the entries that have come before. -/
theorem Located.eraseDups_filter {bs : List Block} {offset : Nat} {found : List (Nat × Entry)}
    (h : Located bs offset found) (keep : Entry → Bool) :
    ((found.map Prod.snd).filter keep).eraseDups = ((bs.filterMap Block.request?).filter keep).eraseDups := by
  induction bs generalizing offset found keep with
  | nil =>
    cases found with
    | nil => rfl
    | cons x rest => exact absurd (h.inside x List.mem_cons_self) id
  | cons b bs ih =>
    obtain ⟨low, high, rfl, hentry, hne, hhigh⟩ := h.exists_split
    cases hb : b.request? with
    | none =>
      have hnil : low = [] := by
        rw [List.eq_nil_iff_forall_not_mem]
        intro x hx
        cases hb.symm.trans (hentry x hx)
      rw [hnil, List.nil_append, List.filterMap_cons_none hb]
      exact ih hhigh keep
    | some entry =>
      obtain ⟨n, hn⟩ := Nat.exists_eq_succ_of_ne_zero (hne entry hb ∘ List.length_eq_zero_iff.1)
      have hmap : low.map Prod.snd = List.replicate (n + 1) entry := by
        rw [List.eq_replicate_iff, List.length_map]
        refine ⟨hn, ?_⟩
        intro e he
        obtain ⟨x, hx, rfl⟩ := List.mem_map.1 he
        exact (Option.some.inj (hb.symm.trans (hentry x hx))).symm
      rw [List.map_append, hmap, List.filterMap_cons_some hb, List.filter_append]
      cases hkeep : keep entry with
      | false =>
        rw [List.filter_replicate_of_neg (by simp [hkeep]), List.nil_append,
          List.filter_cons_of_neg (by simp [hkeep])]
        exact ih hhigh keep
      | true =>
        rw [List.filter_replicate_of_pos hkeep, eraseDups_replicate_append,
          List.filter_cons_of_pos hkeep, List.eraseDups_cons, List.filter_filter, List.filter_filter]
        exact congrArg _ (ih hhigh _)

theorem mem_located_iff {cs : List Cell} {x : Nat × Entry} :
    x ∈ located cs ↔ ∃ form ∈ forms, x ∈ findAll form 0 none 0 cs := by
  rw [located, List.mem_mergeSort, List.mem_flatMap]

/-- What the forms find is in the order of the offsets. -/
theorem pairwise_located (cs : List Cell) : (located cs).Pairwise fun x y => x.1 ≤ y.1 := by
  have h := @List.pairwise_mergeSort _ (fun a b : Nat × Entry => decide (a.1 ≤ b.1))
    (by simp only [decide_eq_true_eq]; omega) (by simp; omega)
    (forms.flatMap fun form => findAll form 0 none 0 cs)
  exact h.imp fun hle => of_decide_eq_true hle

/-- What the forms find in blocks, in order and without repeats, is what the blocks speak of. -/
theorem eraseDups_located (bs : List Block) :
    ((located (blocksCells bs)).map Prod.snd).eraseDups = (bs.filterMap Block.request?).eraseDups := by
  have hstart : IsLineStart none := by
    intro c hc
    cases hc
  have hinside : ∀ x ∈ located (blocksCells bs), Inside bs 0 x := by
    intro x hx
    obtain ⟨form, hform, hx⟩ := mem_located_iff.1 hx
    exact inside_of_findAll hform hx
  have hfronts : ∀ x ∈ fronts bs 0, x ∈ located (blocksCells bs) := by
    intro x hx
    exact mem_located_iff.2 (exists_mem_findAll hstart hx)
  have h := Located.eraseDups_filter ⟨pairwise_located _, hinside, hfronts⟩ fun _ => true
  rw [List.filter_eq_self.2 fun _ _ => rfl, List.filter_eq_self.2 fun _ _ => rfl] at h
  exact h

end ModuleReach.Source
