import Mathlib.Data.List.Induction
import ModuleReach.InsertionMap
import ModuleReach.Manifest.Subpath

/-!
# The value behind a name

A name without a `*` that is a field of a mapping has the value of this field.  Any other name is read through the
patterns: the fields with a `*`.  A pattern takes a name if the name begins with what is before the first `*`, ends with what
is after it, and has something in between.  The pattern with the most text before its `*` decides, and the first of several
with equally much.

Beginning and end may overlap in a short name, the end may be empty, and the piece in between may be cut off at the wrong
place; so the rule is stated here by putting the three parts together, without prefixes, suffixes or lengths.

## Main definitions

* `Manifest.Takes` — a pattern takes a name, with a piece of the name for its `*`.
* `Manifest.Chooses` — the value behind a name, as a relation.
* `Manifest.choice?` — the value behind a name, with the piece of the name that stands for a `*`.

## Main results

* `Manifest.bestPattern?_eq_some_iff` — the pattern that decides.
* `Manifest.chooses_iff` — there is just one value behind a name, if any, and the search finds it.
* `Manifest.matchSubpath_chooses` — the paths behind a name are those that its value gives.
-/

namespace ModuleReach

/-- A text is cut at the first mark: there is none before it. -/
theorem Text.cutFirst?_eq_some_iff {mark : Char} {s before after : List Char} :
    cutFirst? mark s = some (before, after) ↔ s = before ++ mark :: after ∧ mark ∉ before := by
  induction s generalizing before with
  | nil => simp [cutFirst?]
  | cons c rest ih =>
    rw [cutFirst?]
    by_cases hc : c = mark
    · rw [if_pos hc]
      constructor
      · intro h
        cases h
        exact ⟨by rw [hc, List.nil_append], List.not_mem_nil⟩
      · rintro ⟨hs, hmark⟩
        cases before with
        | nil => rw [(List.cons.inj hs).2]
        | cons d before =>
          have hd : c = d := (List.cons.inj hs).1
          exact absurd (hc ▸ hd ▸ List.mem_cons_self) hmark
    · rw [if_neg hc, Option.map_eq_some_iff]
      constructor
      · rintro ⟨⟨before', after'⟩, hcut, heq⟩
        cases heq
        obtain ⟨hrest, hmark⟩ := ih.1 hcut
        refine ⟨by rw [hrest, List.cons_append], ?_⟩
        simp [hmark, Ne.symm hc]
      · rintro ⟨hs, hmark⟩
        cases before with
        | nil => exact absurd (List.cons.inj hs).1 hc
        | cons d before =>
          obtain ⟨rfl, hrest⟩ := List.cons.inj hs
          exact ⟨(before, after), ih.2 ⟨hrest, fun h => hmark (List.mem_cons_of_mem _ h)⟩, rfl⟩

namespace Manifest

/-! ### Patterns that take a name -/

/-- That a pattern takes a name: cut at its first `*` it is `before` and `after`, and the name is these two with a piece
between them that is not empty. -/
structure Takes (pattern name before piece after : List Char) : Prop where
  pattern_eq : pattern = before ++ '*' :: after
  first : '*' ∉ before
  name_eq : before ++ piece ++ after = name
  nonempty : piece ≠ []

/-- The pattern that a field stands for, if it takes the name. -/
def takenBy? (name : List Char) (field : String × Json) : Option Pattern :=
  (Pattern.ofField? field).filter (·.accepts name)

/-- A pattern accepts the names that are its two texts with a piece between them. -/
theorem Pattern.accepts_iff {p : Pattern} {name : List Char} :
    p.accepts name = true ↔ ∃ piece, piece ≠ [] ∧ p.before ++ piece ++ p.after = name := by
  simp only [accepts, Bool.and_eq_true, List.isPrefixOf_iff_prefix, List.isSuffixOf_iff_suffix, decide_eq_true_eq]
  constructor
  · rintro ⟨⟨⟨rest, rfl⟩, hsuffix⟩, hlength⟩
    -- What follows the prefix is longer than the suffix, so it ends with the suffix.
    rw [List.length_append] at hlength
    have hrest : p.after <:+ rest := by
      refine List.suffix_of_suffix_length_le hsuffix (List.suffix_append _ _) ?_
      omega
    obtain ⟨piece, rfl⟩ := hrest
    refine ⟨piece, ?_, List.append_assoc _ _ _⟩
    rintro rfl
    rw [List.nil_append] at hlength
    omega
  · rintro ⟨piece, hpiece, rfl⟩
    have hpos : 0 < piece.length := List.length_pos_iff.2 hpiece
    refine ⟨⟨⟨piece ++ p.after, (List.append_assoc _ _ _).symm⟩, List.suffix_append _ _⟩, ?_⟩
    simp only [List.length_append]
    omega

/-- The piece is what is left of a name without the two texts of the pattern. -/
theorem Pattern.piece_append (p : Pattern) (piece : List Char) : p.piece (p.before ++ piece ++ p.after) = piece := by
  have htake : (p.before ++ piece ++ p.after).length - p.after.length = (p.before ++ piece).length := by
    simp only [List.length_append]
    omega
  rw [Pattern.piece, htake, List.take_left, List.drop_left]

theorem takenBy?_eq_some_iff {name : List Char} {field : String × Json} {p : Pattern} :
    takenBy? name field = some p ↔
      Takes field.1.toList name p.before (p.piece name) p.after ∧ p.value = field.2 := by
  obtain ⟨before, after, value⟩ := p
  rw [takenBy?, Option.filter_eq_some_iff, Pattern.accepts_iff, Pattern.ofField?, Option.map_eq_some_iff]
  constructor
  · rintro ⟨⟨⟨b, a⟩, hcut, hp⟩, piece, hpiece, rfl⟩
    cases hp
    obtain ⟨hpattern, hfirst⟩ := Text.cutFirst?_eq_some_iff.1 hcut
    rw [Pattern.piece_append ⟨b, a, field.2⟩ piece]
    exact ⟨⟨hpattern, hfirst, rfl, hpiece⟩, rfl⟩
  · rintro ⟨htakes, rfl⟩
    have hcut := Text.cutFirst?_eq_some_iff.2 ⟨htakes.pattern_eq, htakes.first⟩
    exact ⟨⟨(before, after), hcut, rfl⟩, _, htakes.nonempty, htakes.name_eq⟩

/-- What takes a name is found, with the piece of the name. -/
theorem Takes.takenBy? {field : String × Json} {name before piece after : List Char}
    (h : Takes field.1.toList name before piece after) :
    Manifest.takenBy? name field = some ⟨before, after, field.2⟩ ∧
      Pattern.piece ⟨before, after, field.2⟩ name = piece := by
  have hpiece : Pattern.piece ⟨before, after, field.2⟩ name = piece := by
    rw [← h.name_eq]
    exact Pattern.piece_append ⟨before, after, field.2⟩ piece
  refine ⟨takenBy?_eq_some_iff.2 ⟨?_, rfl⟩, hpiece⟩
  rw [hpiece]
  exact h

/-! ### The pattern that decides -/

/-- The pattern that decides for a name: no earlier one that takes the name has as much text before its `*`, and no
later one has more. -/
structure IsClosest (mapping : List (String × Json)) (name : List Char) (p : Pattern) : Prop where
  exists_split : ∃ front field back, mapping = front ++ field :: back ∧ takenBy? name field = some p ∧
    (∀ f ∈ front, ∀ q, takenBy? name f = some q → q.before.length < p.before.length) ∧
    ∀ f ∈ back, ∀ q, takenBy? name f = some q → q.before.length ≤ p.before.length

/-- A field more at the end of a mapping is one pattern more to choose from, if it takes the name. -/
theorem bestPattern?_concat (mapping : List (String × Json)) (field : String × Json) (name : List Char) :
    bestPattern? (mapping ++ [field]) name =
      match takenBy? name field with
      | none => bestPattern? mapping name
      | some p => Pattern.prefer (bestPattern? mapping name) p := by
  unfold bestPattern? takenBy?
  rw [List.filterMap_append, List.filter_append, List.foldl_append]
  cases hfield : Pattern.ofField? field with
  | none => simp [hfield]
  | some p => cases haccepts : p.accepts name <;> simp [hfield, haccepts, Option.filter]

/-- Among the patterns that take a name one decides, and it is found. -/
theorem bestPattern?_cases (mapping : List (String × Json)) (name : List Char) :
    (bestPattern? mapping name = none ∧ ∀ f ∈ mapping, takenBy? name f = none) ∨
      ∃ p, bestPattern? mapping name = some p ∧ IsClosest mapping name p := by
  -- The patterns are gone through from the front, so the induction is on the last field.
  induction mapping using List.reverseRecOn with
  | nil => exact .inl ⟨rfl, by simp⟩
  | append_singleton mapping field ih =>
    rw [bestPattern?_concat]
    cases hfield : takenBy? name field with
    | none =>
      rcases ih with ⟨hbest, hnone⟩ | ⟨p, hbest, ⟨front, f, back, rfl, hf, hfront, hback⟩⟩
      · refine .inl ⟨hbest, ?_⟩
        intro f hf
        rcases List.mem_append.1 hf with hf | hf
        · exact hnone f hf
        · rw [List.mem_singleton.1 hf, hfield]
      · refine .inr ⟨p, hbest, ⟨front, f, back ++ [field], by simp, hf, hfront, ?_⟩⟩
        intro g hg q hq
        rcases List.mem_append.1 hg with hg | hg
        · exact hback g hg q hq
        · rw [List.mem_singleton.1 hg, hfield] at hq
          cases hq
    | some new =>
      right
      rcases ih with ⟨hbest, hnone⟩ | ⟨p, hbest, ⟨front, f, back, rfl, hf, hfront, hback⟩⟩
      · refine ⟨new, by rw [hbest]; rfl, ⟨mapping, field, [], rfl, hfield, ?_, by simp⟩⟩
        intro g hg q hq
        rw [hnone g hg] at hq
        cases hq
      · dsimp only
        rw [hbest, Pattern.prefer]
        by_cases hlonger : p.before.length < new.before.length
        · rw [if_pos hlonger]
          refine ⟨new, rfl, ⟨front ++ f :: back, field, [], rfl, hfield, ?_, by simp⟩⟩
          intro g hg q hq
          rcases List.mem_append.1 hg with hg | hg
          · have hq := hfront g hg q hq
            omega
          · rcases List.mem_cons.1 hg with rfl | hg
            · cases hf.symm.trans hq
              exact hlonger
            · have hq := hback g hg q hq
              omega
        · rw [if_neg hlonger]
          refine ⟨p, rfl, ⟨front, f, back ++ [field], by simp, hf, hfront, ?_⟩⟩
          intro g hg q hq
          rcases List.mem_append.1 hg with hg | hg
          · exact hback g hg q hq
          · rw [List.mem_singleton.1 hg] at hq
            cases hfield.symm.trans hq
            omega

/-- Only one pattern decides. -/
theorem IsClosest.unique {mapping : List (String × Json)} {name : List Char} {p p' : Pattern}
    (h : IsClosest mapping name p) (h' : IsClosest mapping name p') : p = p' := by
  obtain ⟨front, f, back, hmapping, hf, hfront, hback⟩ := h
  obtain ⟨front', f', back', hmapping', hf', hfront', hback'⟩ := h'
  rw [hmapping] at hmapping'
  -- If one of the two came before the other, it would have both less and no less text before its `*`.
  rcases List.append_eq_append_iff.1 hmapping' with ⟨between, rfl, hrest⟩ | ⟨between, rfl, hrest⟩
  · cases between with
    | nil =>
      obtain ⟨rfl, -⟩ := List.cons.inj hrest
      exact Option.some.inj (hf.symm.trans hf')
    | cons g between =>
      obtain ⟨rfl, rfl⟩ := List.cons.inj hrest
      have hlt := hfront' f (by simp) p hf
      have hle := hback f' (by simp) p' hf'
      omega
  · cases between with
    | nil =>
      obtain ⟨rfl, -⟩ := List.cons.inj hrest
      exact Option.some.inj (hf.symm.trans hf')
    | cons g between =>
      obtain ⟨rfl, rfl⟩ := List.cons.inj hrest
      have hlt := hfront f' (by simp) p' hf'
      have hle := hback' f (by simp) p hf
      omega

theorem bestPattern?_eq_some_iff {mapping : List (String × Json)} {name : List Char} {p : Pattern} :
    bestPattern? mapping name = some p ↔ IsClosest mapping name p := by
  rcases bestPattern?_cases mapping name with ⟨hbest, hnone⟩ | ⟨found, hbest, hfound⟩
  · rw [hbest]
    constructor
    · intro h
      cases h
    · rintro ⟨front, field, back, rfl, hfield, -⟩
      rw [hnone field (by simp)] at hfield
      cases hfield
  · rw [hbest, Option.some.injEq]
    constructor
    · rintro rfl
      exact hfound
    · intro h
      exact hfound.unique h

theorem bestPattern?_eq_none_iff {mapping : List (String × Json)} {name : List Char} :
    bestPattern? mapping name = none ↔ ∀ field ∈ mapping, takenBy? name field = none := by
  rcases bestPattern?_cases mapping name with ⟨hbest, hnone⟩ | ⟨found, hbest, ⟨front, field, back, rfl, hfield, -⟩⟩
  · exact iff_of_true hbest hnone
  · refine iff_of_false (by simp [hbest]) ?_
    intro hnone
    rw [hnone field (by simp)] at hfield
    cases hfield

/-! ### The value behind a name -/

/-- The value behind a name, and the piece of the name that stands for a `*` if a pattern leads to the value. -/
def choice? (mapping : List (String × Json)) (name : String) : Option (Option String × Json) :=
  match if '*' ∈ name.toList then none else InsertionMap.lookup name mapping with
  | some value => some (none, value)
  | none => (bestPattern? mapping name.toList).map fun p =>
      (some (String.ofList (p.piece name.toList)), p.value)

theorem matchSubpath_eq (mapping : List (String × Json)) (name : String) (conditions : List String) :
    matchSubpath mapping name conditions =
      match choice? mapping name with
      | none => []
      | some (piece, value) => (expand conditions piece value).getD [] := by
  unfold matchSubpath choice?
  cases if '*' ∈ name.toList then none else InsertionMap.lookup name mapping with
  | some value => rfl
  | none => cases bestPattern? mapping name.toList <;> rfl

/-- The value behind a name, with the piece of the name that is put in for every `*`. -/
inductive Chooses (mapping : List (String × Json)) (name : String) : Option (Option String × Json) → Prop
  /-- A name without a `*` that is in the mapping has its own value, and nothing is put in. -/
  | own {value : Json} (hstar : '*' ∉ name.toList) (hvalue : InsertionMap.lookup name mapping = some value) :
      Chooses mapping name (some (none, value))
  /-- Any other name has the value of the pattern that takes it with the most text before the `*`, or of the first of
  several with equally much, and what is put in is the piece with which it is taken. -/
  | taken {front back : List (String × Json)} {pattern : String} {value : Json} {before piece after : List Char}
      (hother : '*' ∈ name.toList ∨ name ∉ mapping.map Prod.fst)
      (hmapping : mapping = front ++ (pattern, value) :: back)
      (htakes : Takes pattern.toList name.toList before piece after)
      (hfront : ∀ field ∈ front, ∀ b w a, Takes field.1.toList name.toList b w a → b.length < before.length)
      (hback : ∀ field ∈ back, ∀ b w a, Takes field.1.toList name.toList b w a → b.length ≤ before.length) :
      Chooses mapping name (some (some (String.ofList piece), value))
  /-- If no pattern takes it, there is no value behind the name. -/
  | nothing (hother : '*' ∈ name.toList ∨ name ∉ mapping.map Prod.fst)
      (hnone : ∀ field ∈ mapping, ∀ b w a, ¬ Takes field.1.toList name.toList b w a) : Chooses mapping name none

/-- What holds of the texts with which a field takes a name holds of the pattern that is found. -/
theorem forall_takes_iff {name : List Char} {field : String × Json} {P : List Char → Prop} :
    (∀ b w a, Takes field.1.toList name b w a → P b) ↔ ∀ q, takenBy? name field = some q → P q.before := by
  constructor
  · intro h q hq
    exact h _ _ _ (takenBy?_eq_some_iff.1 hq).1
  · intro h b w a htakes
    exact h _ htakes.takenBy?.1

/-- There is just one value behind a name, if there is any, and the search finds it. -/
theorem chooses_iff {mapping : List (String × Json)} {name : String} {chosen : Option (Option String × Json)} :
    Chooses mapping name chosen ↔ choice? mapping name = chosen := by
  have hlookup : '*' ∈ name.toList ∨ name ∉ mapping.map Prod.fst ↔
      (if '*' ∈ name.toList then none else InsertionMap.lookup name mapping) = none := by
    rw [← InsertionMap.lookup_eq_none_iff]
    by_cases hstar : '*' ∈ name.toList <;> simp [hstar]
  unfold choice?
  constructor
  · intro h
    cases h with
    | own hstar hvalue => rw [if_neg hstar, hvalue]
    | @taken front back pattern value before piece after hother hmapping htakes hfront hback =>
      obtain ⟨htaken, hpiece⟩ : takenBy? name.toList (pattern, value) = some ⟨before, after, value⟩ ∧
          Pattern.piece ⟨before, after, value⟩ name.toList = piece := Takes.takenBy? htakes
      have hclosest : IsClosest mapping name.toList ⟨before, after, value⟩ :=
        ⟨front, (pattern, value), back, hmapping, htaken, fun f hf => forall_takes_iff.1 (hfront f hf),
          fun f hf => forall_takes_iff.1 (hback f hf)⟩
      rw [hlookup.1 hother, bestPattern?_eq_some_iff.2 hclosest]
      dsimp only [Option.map_some]
      rw [hpiece]
    | nothing hother hnone =>
      have hbest : bestPattern? mapping name.toList = none := by
        rw [bestPattern?_eq_none_iff]
        intro field hfield
        rw [Option.eq_none_iff_forall_ne_some]
        intro q hq
        exact hnone field hfield _ _ _ (takenBy?_eq_some_iff.1 hq).1
      rw [hlookup.1 hother, hbest]
      rfl
  · rintro rfl
    cases hvalue : if '*' ∈ name.toList then none else InsertionMap.lookup name mapping with
    | some value =>
      by_cases hstar : '*' ∈ name.toList
      · rw [if_pos hstar] at hvalue
        cases hvalue
      · rw [if_neg hstar] at hvalue
        exact .own hstar hvalue
    | none =>
      have hother := hlookup.2 hvalue
      dsimp only
      cases hbest : bestPattern? mapping name.toList with
      | none =>
        refine .nothing hother ?_
        intro field hfield b w a htakes
        have htaken := htakes.takenBy?.1
        rw [bestPattern?_eq_none_iff.1 hbest field hfield] at htaken
        cases htaken
      | some p =>
        obtain ⟨front, ⟨pattern, value⟩, back, hmapping, htaken, hfront, hback⟩ := bestPattern?_eq_some_iff.1 hbest
        obtain ⟨htakes, hvalue⟩ := takenBy?_eq_some_iff.1 htaken
        rw [Option.map_some, hvalue]
        exact .taken hother hmapping htakes (fun f hf => forall_takes_iff.2 (hfront f hf))
          fun f hf => forall_takes_iff.2 (hback f hf)

/-- **Paths behind a name.**  For every mapping and every name there is just one value behind the name, or none, and
the conditions have no part in which it is: the value of the name itself, if the name has no `*` and is in the mapping, and
else that of the pattern that takes it with the most text before its `*`, the first of several with equally much.
The paths behind the name are those that this value gives under the conditions, with the piece put in with which the pattern
takes the name.  If there is no value, there are no paths. -/
theorem matchSubpath_chooses (mapping : List (String × Json)) (name : String) :
    ∃ chosen, (∀ other, Chooses mapping name other ↔ other = chosen) ∧
      ∀ conditions, matchSubpath mapping name conditions =
        chosen.elim [] fun c => (expand conditions c.1 c.2).getD [] := by
  refine ⟨choice? mapping name, ?_, ?_⟩
  · intro other
    exact chooses_iff.trans eq_comm
  · intro conditions
    rw [matchSubpath_eq]
    cases choice? mapping name <;> rfl

/-- The end of the longer pattern would overlap its beginning in the name, so the shorter one decides. -/
example : matchSubpath [("./ab*ba", .string "./no.js"), ("./a*", .string "./lib/*")] "./aba" [] = ["./lib/ba"] := by
  decide +kernel

end Manifest

end ModuleReach
