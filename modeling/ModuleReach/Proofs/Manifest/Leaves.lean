import Mathlib.Data.List.Basic
import ModuleReach.Manifest.Subpath

/-!
# The texts that an expression gives

A target expression gives some of the texts that are written in it, in the order in which they are written.  A text counts if
each field around it opens: its name is a condition that holds, and the fields before it in the same object are passed over,
since their names are no such conditions or their values abstain.  The conditions have no other part in this, so their order
and repetitions do not matter; and what is put in for a `*` does not decide which texts are given.

## Main definitions

* `Manifest.Abstains` — an expression that neither gives a text nor excludes the path.
* `Manifest.Excludes` — an expression that decides for a null.
* `Manifest.leaves` — the texts in an expression in document order, each with the fields around it.
* `Manifest.Leaf.Counts` — that all fields around a text open.

## Main results

* `Manifest.expand_congr`, `Manifest.expand_eq_map` — the parts that the conditions and the piece have in what is given.
* `Manifest.expand_eq_none_iff`, `Manifest.eq_of_expand_eq_some` — what an expression gives.
* `Manifest.expand_expression` — all of this together.
-/

namespace ModuleReach

/-- Induction over values: what holds of an array if it holds of its items, of an object if it holds of the values of its
fields, and of everything else, holds of all values. -/
theorem Json.induct {motive : Json → Prop} (null : motive .null) (bool : ∀ value, motive (.bool value))
    (number : ∀ literal, motive (.number literal)) (string : ∀ text, motive (.string text))
    (array : ∀ items, (∀ item ∈ items, motive item) → motive (.array items))
    (object : ∀ fields, (∀ field ∈ fields, motive field.2) → motive (.object fields)) : ∀ value, motive value
  | .null => null
  | .bool value => bool value
  | .number literal => number literal
  | .string text => string text
  | .array items => array items fun item _ => induct null bool number string array object item
  | .object fields => object fields fun field _ => induct null bool number string array object field.2
decreasing_by
  · have hlt : sizeOf item < sizeOf items := List.sizeOf_lt_of_mem ‹_›
    simp only [Json.array.sizeOf_spec]
    omega
  · have hlt : sizeOf field < sizeOf fields := List.sizeOf_lt_of_mem ‹_›
    have hvalue : sizeOf field = 1 + sizeOf field.1 + sizeOf field.2 := rfl
    simp only [Json.object.sizeOf_spec]
    omega

namespace Manifest

variable {conditions conditions' : List String} {piece : Option String}

/-! ### The parts of conditions and piece -/

/-- The name of a field that counts: a condition that holds. -/
def Met (conditions : List String) (name : String) : Prop := name = "default" ∨ name ∈ conditions

instance (conditions : List String) (name : String) : Decidable (Met conditions name) :=
  inferInstanceAs (Decidable (_ ∨ _))

theorem applies_iff {name : String} : applies conditions name = true ↔ Met conditions name := by
  simp [applies, Met]

@[simp] theorem substitute_none (path : String) : substitute none path = path := rfl

theorem expandItems_eq (items : List Json) :
    expandItems conditions piece items = items.flatMap fun item => (expand conditions piece item).getD [] := by
  induction items with
  | nil => rfl
  | cons item rest ih => rw [expandItems, ih, List.flatMap_cons]

/-- Only which conditions there are has a part in what an expression gives. -/
theorem expand_congr (h : ∀ name, name ∈ conditions ↔ name ∈ conditions') (value : Json) :
    expand conditions piece value = expand conditions' piece value := by
  have happlies : ∀ name, applies conditions name = applies conditions' name := by
    intro name
    rw [Bool.eq_iff_iff, applies_iff, applies_iff, Met, Met, h]
  induction value using Json.induct with
  | null => rfl
  | bool => rfl
  | number => rfl
  | string => rfl
  | array items ih =>
    rw [expand, expand, expandItems_eq, expandItems_eq]
    congr 1
    apply List.flatMap_congr
    intro item hitem
    rw [ih item hitem]
  | object fields ih =>
    rw [expand, expand]
    induction fields with
    | nil => rfl
    | cons field rest ihrest =>
      rw [expandFields, expandFields, happlies, ih field (by simp), ihrest fun f hf => ih f (by simp [hf])]

/-- What is put in for a `*` is put into each text that an expression gives, and has no other part. -/
theorem expand_eq_map (value : Json) :
    expand conditions piece value = (expand conditions none value).map (List.map (substitute piece)) := by
  induction value using Json.induct with
  | null => rfl
  | bool => rfl
  | number => rfl
  | string => rfl
  | array items ih =>
    rw [expand, expand, expandItems_eq, expandItems_eq, Option.map_some, List.map_flatMap]
    congr 1
    apply List.flatMap_congr
    intro item hitem
    rw [ih item hitem]
    cases expand conditions none item <;> rfl
  | object fields ih =>
    rw [expand, expand]
    induction fields with
    | nil => rfl
    | cons field rest ihrest =>
      rw [expandFields, expandFields, ih field (by simp), ihrest fun f hf => ih f (by simp [hf])]
      split
      · match expand conditions none field.2 with
        | none => rfl
        | some [] => rfl
        | some (_ :: _) => rfl
      · rfl

/-! ### Fields that open -/

/-- An expression abstains if it neither gives a text nor excludes the path. -/
def Abstains (conditions : List String) (value : Json) : Prop := expand conditions none value = some []

instance (conditions : List String) (value : Json) : Decidable (Abstains conditions value) :=
  inferInstanceAs (Decidable (_ = _))

/-- A field is passed over if its name is no condition that holds, or its value abstains. -/
def PassedOver (conditions : List String) (field : String × Json) : Prop :=
  Met conditions field.1 → Abstains conditions field.2

instance (conditions : List String) (field : String × Json) : Decidable (PassedOver conditions field) :=
  inferInstanceAs (Decidable (_ → _))

/-- Where a field is in an object: the fields before it, and its name. -/
structure Place where
  before : List (String × Json)
  name : String

/-- A field opens if its name is a condition that holds, and all fields before it are passed over. -/
def Place.Opens (conditions : List String) (p : Place) : Prop :=
  Met conditions p.name ∧ ∀ field ∈ p.before, PassedOver conditions field

instance (conditions : List String) (p : Place) : Decidable (p.Opens conditions) := inferInstanceAs (Decidable (_ ∧ _))

/-- A field that is passed over may as well be missing. -/
theorem expandFields_cons_of_passedOver {name : String} {value : Json} (rest : List (String × Json))
    (h : PassedOver conditions (name, value)) :
    expandFields conditions none ((name, value) :: rest) = expandFields conditions none rest := by
  rw [expandFields]
  split
  · rename_i happlies
    rw [h (applies_iff.1 happlies)]
  · rfl

/-- The value of a field that counts stands for the object, unless it abstains. -/
theorem expandFields_cons_of_decides {name : String} {value : Json} (rest : List (String × Json))
    (hname : Met conditions name) (hvalue : ¬ Abstains conditions value) :
    expandFields conditions none ((name, value) :: rest) = expand conditions none value := by
  rw [expandFields, if_pos (applies_iff.2 hname)]
  split
  · contradiction
  · rfl

theorem expandFields_append_of_passedOver {before : List (String × Json)} (rest : List (String × Json))
    (h : ∀ field ∈ before, PassedOver conditions field) :
    expandFields conditions none (before ++ rest) = expandFields conditions none rest := by
  induction before with
  | nil => rfl
  | cons field before ih =>
    rw [List.cons_append, expandFields_cons_of_passedOver _ (h field (by simp)), ih fun f hf => h f (by simp [hf])]

/-- What an object gives is the value of the field that opens and does not abstain. -/
theorem expandFields_of_opens {before : List (String × Json)} {name : String} {value : Json} (rest : List (String × Json))
    (hopens : Place.Opens conditions ⟨before, name⟩) (hvalue : ¬ Abstains conditions value) :
    expandFields conditions none (before ++ (name, value) :: rest) = expand conditions none value := by
  rw [expandFields_append_of_passedOver _ hopens.2, expandFields_cons_of_decides rest hopens.1 hvalue]

/-- Either all fields of an object are passed over, or one of them opens and does not abstain. -/
theorem passedOver_or_exists_opens (conditions : List String) (fields : List (String × Json)) :
    (∀ field ∈ fields, PassedOver conditions field) ∨
      ∃ before name value rest, fields = before ++ (name, value) :: rest ∧
        Place.Opens conditions ⟨before, name⟩ ∧ ¬ Abstains conditions value := by
  induction fields with
  | nil => exact .inl (by simp)
  | cons field fields ih =>
    by_cases hfield : PassedOver conditions field
    · rcases ih with hpassed | ⟨before, name, value, rest, rfl, hopens, hvalue⟩
      · exact .inl (List.forall_mem_cons.2 ⟨hfield, hpassed⟩)
      · refine .inr ⟨field :: before, name, value, rest, rfl, ⟨hopens.1, ?_⟩, hvalue⟩
        exact List.forall_mem_cons.2 ⟨hfield, hopens.2⟩
    · rw [PassedOver, Classical.not_imp] at hfield
      exact .inr ⟨[], field.1, field.2, fields, rfl, ⟨hfield.1, by simp⟩, hfield.2⟩

/-! ### Exclusion -/

/-- An expression that excludes the path: a null, or an object of which a field that opens excludes it. -/
inductive Excludes (conditions : List String) : Json → Prop
  | null : Excludes conditions .null
  | field {before rest : List (String × Json)} {name : String} {value : Json}
      (hopens : Place.Opens conditions ⟨before, name⟩) (hvalue : Excludes conditions value) :
      Excludes conditions (.object (before ++ (name, value) :: rest))

theorem Excludes.expand_eq {value : Json} (h : Excludes conditions value) : expand conditions none value = none := by
  induction h with
  | null => rfl
  | field hopens _ ih =>
    rw [expand, expandFields_of_opens _ hopens (by simp [Abstains, ih]), ih]

theorem excludes_of_expand {value : Json} (h : expand conditions none value = none) : Excludes conditions value := by
  induction value using Json.induct with
  | null => exact .null
  | bool => cases h
  | number => cases h
  | string => cases h
  | array => cases h
  | object fields ih =>
    rw [expand] at h
    rcases passedOver_or_exists_opens conditions fields with hpassed | ⟨before, name, value, rest, rfl, hopens, hvalue⟩
    · have hall := expandFields_append_of_passedOver [] hpassed
      rw [List.append_nil, h] at hall
      cases hall
    · rw [expandFields_of_opens rest hopens hvalue] at h
      exact .field hopens (ih (name, value) (by simp) h)

/-- An expression decides that there is no path just if it excludes the path. -/
theorem expand_eq_none_iff {value : Json} : expand conditions piece value = none ↔ Excludes conditions value := by
  rw [expand_eq_map, Option.map_eq_none_iff]
  exact ⟨excludes_of_expand, Excludes.expand_eq⟩

/-! ### Texts that count -/

/-- A text in an expression, with the fields in which it is, from the outside in. -/
structure Leaf where
  around : List Place
  text : String

/-- A text of the value of a field, as a text of the object. -/
def Leaf.inside (p : Place) (leaf : Leaf) : Leaf := ⟨p :: leaf.around, leaf.text⟩

mutual

/-- The texts in an expression, in the order in which they are written. -/
def leaves : Json → List Leaf
  | .null => []
  | .bool _ => []
  | .number _ => []
  | .string text => [⟨[], text⟩]
  | .array items => leavesOfItems items
  | .object fields => leavesOfFields [] fields

/-- The texts in the items of an array. -/
def leavesOfItems : List Json → List Leaf
  | [] => []
  | item :: rest => leaves item ++ leavesOfItems rest

/-- The texts in the fields of an object that come behind some others. -/
def leavesOfFields (before : List (String × Json)) : List (String × Json) → List Leaf
  | [] => []
  | (name, value) :: rest =>
    (leaves value).map (Leaf.inside ⟨before, name⟩) ++ leavesOfFields (before ++ [(name, value)]) rest

end

@[simp] theorem Leaf.text_inside (p : Place) (leaf : Leaf) : (leaf.inside p).text = leaf.text := rfl

/-- A text counts if each field around it opens. -/
def Leaf.Counts (conditions : List String) (leaf : Leaf) : Prop := ∀ p ∈ leaf.around, p.Opens conditions

instance (conditions : List String) (leaf : Leaf) : Decidable (leaf.Counts conditions) :=
  inferInstanceAs (Decidable (∀ p ∈ leaf.around, p.Opens conditions))

@[simp] theorem Leaf.counts_inside {p : Place} {leaf : Leaf} :
    (leaf.inside p).Counts conditions ↔ p.Opens conditions ∧ leaf.Counts conditions := by
  simp [Counts, inside]

/-- The texts that count, without the fields around them. -/
def counted (conditions : List String) (texts : List Leaf) : List String :=
  (texts.filter fun leaf => leaf.Counts conditions).map Leaf.text

@[simp] theorem counted_append (texts texts' : List Leaf) :
    counted conditions (texts ++ texts') = counted conditions texts ++ counted conditions texts' := by
  simp [counted]

theorem counted_inside_of_opens {p : Place} (h : p.Opens conditions) (texts : List Leaf) :
    counted conditions (texts.map (Leaf.inside p)) = counted conditions texts := by
  simp [counted, List.filter_map, Function.comp_def, h]

theorem counted_inside_of_not_opens {p : Place} (h : ¬ p.Opens conditions) (texts : List Leaf) :
    counted conditions (texts.map (Leaf.inside p)) = [] := by
  simp [counted, List.filter_map, Function.comp_def, h]

theorem counted_leavesOfItems (items : List Json) :
    counted conditions (leavesOfItems items) = items.flatMap fun item => counted conditions (leaves item) := by
  induction items with
  | nil => rfl
  | cons item rest ih => rw [leavesOfItems, counted_append, ih, List.flatMap_cons]

theorem leavesOfFields_append (before front rest : List (String × Json)) :
    leavesOfFields before (front ++ rest) = leavesOfFields before front ++ leavesOfFields (before ++ front) rest := by
  induction front generalizing before with
  | nil => simp [leavesOfFields]
  | cons field front ih => simp [leavesOfFields, ih]

/-- Behind a field that is not passed over no text counts. -/
theorem counted_behind {before : List (String × Json)} {field : String × Json} (hmem : field ∈ before)
    (hdecides : ¬ PassedOver conditions field) (fields : List (String × Json)) :
    counted conditions (leavesOfFields before fields) = [] := by
  induction fields generalizing before with
  | nil => rfl
  | cons next rest ih =>
    have hclosed : ¬ Place.Opens conditions ⟨before, next.1⟩ := fun hopens => hdecides (hopens.2 field hmem)
    rw [leavesOfFields, counted_append, counted_inside_of_not_opens hclosed, ih (by simp [hmem]), List.append_nil]

/-- No text counts in fields that are passed over. -/
theorem counted_of_passedOver {fields : List (String × Json)} (before : List (String × Json))
    (hcounted : ∀ field ∈ fields, (expand conditions none field.2).getD [] = counted conditions (leaves field.2))
    (h : ∀ field ∈ fields, PassedOver conditions field) :
    counted conditions (leavesOfFields before fields) = [] := by
  induction fields generalizing before with
  | nil => rfl
  | cons field rest ih =>
    have hfield : counted conditions ((leaves field.2).map (Leaf.inside ⟨before, field.1⟩)) = [] := by
      by_cases hopens : Place.Opens conditions ⟨before, field.1⟩
      · have habstains : Abstains conditions field.2 := h field (by simp) hopens.1
        rw [counted_inside_of_opens hopens, ← hcounted field (by simp), habstains, Option.getD_some]
      · exact counted_inside_of_not_opens hopens _
    rw [leavesOfFields, counted_append, hfield, List.nil_append]
    exact ih _ (fun f hf => hcounted f (by simp [hf])) fun f hf => h f (by simp [hf])

/-- An expression gives the texts in it that count, in document order. -/
theorem getD_expand (value : Json) :
    (expand conditions none value).getD [] = counted conditions (leaves value) := by
  induction value using Json.induct with
  | null => rfl
  | bool => rfl
  | number => rfl
  | string => rfl
  | array items ih =>
    rw [expand, expandItems_eq, leaves, counted_leavesOfItems, Option.getD_some]
    exact List.flatMap_congr ih
  | object fields ih =>
    rw [expand, leaves]
    rcases passedOver_or_exists_opens conditions fields with hpassed | ⟨before, name, value, rest, rfl, hopens, hvalue⟩
    · have hall := expandFields_append_of_passedOver [] hpassed
      rw [List.append_nil] at hall
      rw [hall, counted_of_passedOver [] ih hpassed]
      rfl
    · -- The fields before the one that opens are passed over, and those behind it come too late.
      have hbefore : counted conditions (leavesOfFields [] before) = [] :=
        counted_of_passedOver [] (fun f hf => ih f (by simp [hf])) hopens.2
      have hbehind : counted conditions (leavesOfFields (before ++ [(name, value)]) rest) = [] :=
        counted_behind List.mem_concat_self (fun hpassed => hvalue (hpassed hopens.1)) rest
      rw [expandFields_of_opens rest hopens hvalue, leavesOfFields_append, List.nil_append, leavesOfFields,
        counted_append, counted_append, hbefore, hbehind, counted_inside_of_opens hopens, ih (name, value) (by simp),
        List.nil_append, List.append_nil]

/-! ### What an expression gives -/

/-- What an expression gives, if it does not exclude the path, are its texts that count, with the piece put in. -/
theorem eq_of_expand_eq_some {value : Json} {paths : List String} (h : expand conditions piece value = some paths) :
    paths = (counted conditions (leaves value)).map (substitute piece) := by
  rw [expand_eq_map, Option.map_eq_some_iff] at h
  obtain ⟨texts, htexts, rfl⟩ := h
  rw [← getD_expand, htexts, Option.getD_some]

/-- **What an expression gives.**  For every expression, only which conditions there are has a part in what it gives, not their
order or repetition.  A piece that is put in for the `*` has no part in whether the path is excluded, and it is put in for every
`*` of what is given otherwise.  The path is excluded just if the expression is a null, or an object of which a field that
opens excludes it; and else what is given are the texts in the expression each of whose fields opens, in document order. -/
theorem expand_expression (value : Json) (h : ∀ name, name ∈ conditions ↔ name ∈ conditions') (piece : Option String) :
    expand conditions piece value = expand conditions' piece value ∧
    expand conditions piece value = (expand conditions none value).map (List.map (substitute piece)) ∧
    (expand conditions piece value = none ↔ Excludes conditions value) ∧
    ∀ paths, expand conditions piece value = some paths →
      paths = ((leaves value).filter fun leaf => leaf.Counts conditions).map fun leaf => substitute piece leaf.text := by
  refine ⟨expand_congr h value, expand_eq_map value, expand_eq_none_iff, ?_⟩
  intro paths hpaths
  rw [eq_of_expand_eq_some hpaths, counted, List.map_map]
  rfl

/-- For instance, an object whose first field that is a condition abstains and whose second gives two texts. -/
theorem expand_expression_fallbacks :
    let conditions := ["node", "import"]
    let conditions' := ["import", "node", "import"]
    let value : Json := .object [("types", .string "./t.ts"), ("import", .object [("worker", .null)]),
      ("node", .array [.null, .string "./a/*.js", .object [("default", .string "./b*.js")]]), ("default", .null)]
    (∀ name, name ∈ conditions ↔ name ∈ conditions') ∧
      expand conditions (some "x") value = some ["./a/x.js", "./bx.js"] ∧
      expand conditions (some "x") value = expand conditions' (some "x") value ∧
      ["./a/x.js", "./bx.js"] = ((leaves value).filter fun leaf => leaf.Counts conditions).map fun leaf =>
        substitute (some "x") leaf.text := by
  intro conditions conditions' value
  have hsame : ∀ name, name ∈ conditions ↔ name ∈ conditions' := by
    intro name
    simp [conditions, conditions', or_comm]
  have hgiven : expand conditions (some "x") value = some ["./a/x.js", "./bx.js"] := by decide +kernel
  obtain ⟨hcongr, -, -, htexts⟩ := expand_expression value hsame (some "x")
  exact ⟨hsame, hgiven, hcongr, htexts _ hgiven⟩

end Manifest

end ModuleReach
