import ModuleReach.Proofs.Source.Forms

/-!
# Calls and static forms as they are written

What the forms find in a call, and in a static form, that is written in the usual way and ended by a semicolon and a line
break.  A call is found by the one form that is meant for it.  A static form is found by the form of its own keyword, and
perhaps again where a name in its clause begins with a keyword, as in `export { importer } from "…"`, but then as the same
entry.

## Main definitions

* `Source.attributesCells`, `Source.optionsCells` — the attributes of an asset, in a static form and in a call.
* `Source.ending` — the semicolon and the line break.

## Main results

* `Source.requireForm_written` and the three after it — what the form of a call finds in it.
* `Source.tight_require` and the three after it — nothing else is found in a call.
* `Source.staticForm_written`, `Source.tight_static` — the same for a static form.
-/

namespace ModuleReach.Source

open Text (isBlank isWordChar)

/-! ### Attributes -/

/-- The type of an asset in quotes. -/
def assetType : Quoted := ⟨'"', "asset".toList, .inl rfl, by decide, by simp⟩

/-- The attributes after a static form. -/
def attributesCells (asset : Bool) : List Cell :=
  if asset then plain " with \x7b type: ".toList ++ (assetType.cells ++ plain " \x7d".toList) else []

/-- The second argument of a call of `import`. -/
def optionsCells (asset : Bool) : List Cell :=
  if asset then plain ", \x7b with: \x7b type: ".toList ++ (assetType.cells ++ plain " \x7d \x7d".toList)
  else []

/-- A semicolon and a line break. -/
def ending : List Char := [';', '\n']

/-- The attributes after a static form are read as they are written. -/
theorem attributes_attributesCells (asset : Bool) (rest : List Cell) :
    isAssetIn (attributes (attributesCells asset ++ (plain ending ++ rest))).1 = asset ∧
      (attributes (attributesCells asset ++ (plain ending ++ rest))).2 = plain ending ++ rest := by
  cases asset
  · exact ⟨rfl, rfl⟩
  · exact ⟨rfl, rfl⟩

/-- The second argument of a call of `import` is read as it is written. -/
theorem options_optionsCells (asset : Bool) (rest : List Cell) :
    isAssetIn (options (skipBlanks (optionsCells asset ++ (plain [')'] ++ rest)))).1 = asset ∧
      (options (skipBlanks (optionsCells asset ++ (plain [')'] ++ rest)))).2 = plain [')'] ++ rest := by
  cases asset
  · exact ⟨rfl, rfl⟩
  · exact ⟨rfl, rfl⟩

theorem clear_attributesCells (asset : Bool) : clear ((attributesCells asset).map Cell.shown) = true := by
  cases asset <;> rfl

theorem clear_optionsCells (asset : Bool) : clear ((optionsCells asset).map Cell.shown) = true := by
  cases asset <;> rfl

/-! ### Calls -/

section Calls

variable {before : Option Char} {rest after : List Cell} {entry : Entry}

/-- A call of `require` is found by its form. -/
theorem requireForm_written (q : Quoted) :
    requireForm before (plain "require(".toList ++ (q.cells ++ (plain [')'] ++ rest))) =
        some (entry, after) ↔
      beginsKeyword before = true ∧ rest = after ∧ ⟨q.specifier, false, false, true, false⟩ = entry := by
  have hcall : word? "require".toList (plain "require(".toList ++ (q.cells ++ (plain [')'] ++ rest))) =
      some (plain ['('] ++ (q.cells ++ (plain [')'] ++ rest))) := rfl
  have hopened : word? ['('] (skipBlanks (plain ['('] ++ (q.cells ++ (plain [')'] ++ rest)))) =
      some (q.cells ++ (plain [')'] ++ rest)) := rfl
  have hclosed : word? [')'] (skipBlanks (plain [')'] ++ rest)) = some rest := rfl
  rw [requireForm_eq_some_iff, hcall]
  simp only [Option.some.injEq, exists_eq_left', hopened, q.skipBlanks_cells, q.specifier?_cells, hclosed,
    q.actualText_hidden]

/-- A call of `require.asset` is found by its form. -/
theorem assetForm_written (q : Quoted) :
    assetForm before (plain "require.asset(".toList ++ (q.cells ++ (plain [')'] ++ rest))) =
        some (entry, after) ↔
      beginsWord before = true ∧ rest = after ∧ ⟨q.specifier, false, true, true, false⟩ = entry := by
  have hcall : word? "require.asset".toList
      (plain "require.asset(".toList ++ (q.cells ++ (plain [')'] ++ rest))) =
      some (plain ['('] ++ (q.cells ++ (plain [')'] ++ rest))) := rfl
  have hopened : word? ['('] (skipBlanks (plain ['('] ++ (q.cells ++ (plain [')'] ++ rest)))) =
      some (q.cells ++ (plain [')'] ++ rest)) := rfl
  have hclosed : endOfArgument? (skipBlanks (plain [')'] ++ rest)) = some rest := rfl
  rw [assetForm_eq_some_iff, hcall]
  simp only [Option.some.injEq, exists_eq_left', hopened, q.skipBlanks_cells, q.specifier?_cells, hclosed,
    q.actualText_hidden]

/-- A call of `require.addon` with a specifier is found by its form. -/
theorem addonForm_written (q : Quoted) :
    addonForm before (plain "require.addon(".toList ++ (q.cells ++ (plain [')'] ++ rest))) =
        some (entry, after) ↔
      beginsWord before = true ∧ rest = after ∧ ⟨q.specifier, true, false, true, false⟩ = entry := by
  have hcall : word? "require.addon".toList
      (plain "require.addon(".toList ++ (q.cells ++ (plain [')'] ++ rest))) =
      some (plain ['('] ++ (q.cells ++ (plain [')'] ++ rest))) := rfl
  have hopened : word? ['('] (skipBlanks (plain ['('] ++ (q.cells ++ (plain [')'] ++ rest)))) =
      some (q.cells ++ (plain [')'] ++ rest)) := rfl
  have hclosed : endOfArgument? (skipBlanks (plain [')'] ++ rest)) = some rest := rfl
  rw [addonForm_eq_some_iff, hcall]
  simp only [Option.some.injEq, exists_eq_left', hopened, q.skipBlanks_cells, q.quoted?_cells,
    Option.getD_some, hclosed, q.actualText_hidden]

/-- A call of `require.addon` without a specifier is found by its form. -/
theorem addonForm_bare :
    addonForm before (plain "require.addon()".toList ++ rest) = some (entry, after) ↔
      beginsWord before = true ∧ rest = after ∧ ⟨"", true, false, true, false⟩ = entry := by
  have hcall : word? "require.addon".toList (plain "require.addon()".toList ++ rest) =
      some (plain ['(', ')'] ++ rest) := rfl
  have hopened : word? ['('] (skipBlanks (plain ['(', ')'] ++ rest)) = some (plain [')'] ++ rest) := rfl
  have hargument : skipBlanks (plain [')'] ++ rest) = plain [')'] ++ rest := rfl
  have hquoted : quoted? (plain [')'] ++ rest) = none := rfl
  have hclosed : endOfArgument? (plain [')'] ++ rest) = some rest := rfl
  have hempty : actualText [] = "" := rfl
  rw [addonForm_eq_some_iff, hcall]
  simp only [Option.some.injEq, exists_eq_left', hopened, hargument, hquoted, Option.getD_none, hclosed,
    hempty]

/-- A call of `import` is found by its form. -/
theorem callForm_written (q : Quoted) (asset : Bool) :
    callForm before
        (plain "import(".toList ++ (q.cells ++ (optionsCells asset ++ (plain [')'] ++ rest)))) =
        some (entry, after) ↔
      beginsKeyword before = true ∧ rest = after ∧ ⟨q.specifier, false, asset, false, true⟩ = entry := by
  have hcall : word? "import".toList
      (plain "import(".toList ++ (q.cells ++ (optionsCells asset ++ (plain [')'] ++ rest)))) =
      some (plain ['('] ++ (q.cells ++ (optionsCells asset ++ (plain [')'] ++ rest)))) := rfl
  have hopened : word? ['(']
      (skipBlanks (plain ['('] ++ (q.cells ++ (optionsCells asset ++ (plain [')'] ++ rest))))) =
      some (q.cells ++ (optionsCells asset ++ (plain [')'] ++ rest))) := rfl
  have hclosed : word? [')'] (plain [')'] ++ rest) = some rest := rfl
  obtain ⟨habout, hoptions⟩ := options_optionsCells asset rest
  rw [callForm_eq_some_iff, hcall]
  simp only [Option.some.injEq, exists_eq_left', hopened, q.skipBlanks_cells, q.specifier?_cells, habout,
    hoptions, hclosed, q.actualText_hidden]

end Calls

/-! ### Nothing else is found in a call -/

/-- What is found at the front of a text is found by one of the six forms. -/
theorem keeps_of_forms {request? : Option Entry} {limit : Nat} {cs : List Cell}
    (h : ∀ before entry after, (addonForm before cs = some (entry, after) ∨
      assetForm before cs = some (entry, after) ∨ requireForm before cs = some (entry, after) ∨
      importForm before cs = some (entry, after) ∨ exportForm before cs = some (entry, after) ∨
      callForm before cs = some (entry, after)) → request? = some entry ∧ limit ≤ after.length) :
    Keeps request? limit cs := by
  intro form hform before entry after hmatch
  simp only [forms, List.mem_cons, List.not_mem_nil, or_false] at hform
  rcases hform with rfl | rfl | rfl | rfl | rfl | rfl
  all_goals exact h before entry after (by simp [hmatch])

/-- A part of a source is tight if what is found at its front is its entry and what follows its first character is clear. -/
theorem tight_of_front {request? : Option Entry} {limit : Nat} {text : List Char} {cs rest : List Cell}
    (hfront : Keeps request? limit (plain text ++ (cs ++ rest))) (htext : clear text.tail = true)
    (hcs : clear (cs.map Cell.shown) = true) : Tight request? limit (plain text ++ cs) rest := by
  cases text with
  | nil => exact tight_of_clear hcs _ _ _
  | cons c text =>
    have hclear : clear ((plain text ++ cs).map Cell.shown) = true := by
      rw [List.map_append, map_shown_plain]
      exact clear_append htext hcs
    rw [plain_cons, List.cons_append] at hfront ⊢
    refine ⟨?_, tight_of_clear hclear _ _ _⟩
    rw [List.cons_append, List.append_assoc]
    exact hfront

/-- What follows the front of a statement is clear: a specifier, what is clear, and the end. -/
theorem clear_back (q : Quoted) {back : List Cell} (h : clear (back.map Cell.shown) = true) :
    clear ((q.cells ++ (back ++ plain ending)).map Cell.shown) = true := by
  have hending : clear ((plain ending).map Cell.shown) = true := rfl
  rw [List.map_append, List.map_append]
  exact clear_append q.clear_cells (clear_append h hending)

theorem length_le_ending (rest : List Cell) : rest.length ≤ (plain ending ++ rest).length := by
  rw [List.length_append]
  exact Nat.le_add_left _ _

theorem tight_require (q : Quoted) (rest : List Cell) :
    Tight (some ⟨q.specifier, false, false, true, false⟩) rest.length
      (plain "require(".toList ++ (q.cells ++ (plain [')'] ++ plain ending))) rest := by
  refine tight_of_front (keeps_of_forms ?_) (by decide) (clear_back q (by decide))
  intro before entry after h
  rw [List.append_assoc, List.append_assoc] at h
  rcases h with h | h | h | h | h | h
  · exact absurd h (asks_addonForm.ne_some rfl _ _ _)
  · exact absurd h (asks_assetForm.ne_some rfl _ _ _)
  · obtain ⟨-, rfl, rfl⟩ := (requireForm_written q).1 h
    exact ⟨rfl, length_le_ending rest⟩
  · exact absurd h (asks_importForm.ne_some rfl _ _ _)
  · exact absurd h (asks_exportForm.ne_some rfl _ _ _)
  · exact absurd h (asks_callForm.ne_some rfl _ _ _)

theorem tight_asset (q : Quoted) (rest : List Cell) :
    Tight (some ⟨q.specifier, false, true, true, false⟩) rest.length
      (plain "require.asset(".toList ++ (q.cells ++ (plain [')'] ++ plain ending))) rest := by
  refine tight_of_front (keeps_of_forms ?_) (by decide) (clear_back q (by decide))
  intro before entry after h
  rw [List.append_assoc, List.append_assoc] at h
  rcases h with h | h | h | h | h | h
  · exact absurd h (asks_addonForm.ne_some rfl _ _ _)
  · obtain ⟨-, rfl, rfl⟩ := (assetForm_written q).1 h
    exact ⟨rfl, length_le_ending rest⟩
  · -- The keyword of `require` is there, but a dot follows it.
    exact absurd h (requireForm_ne_some rfl rfl _ _ _)
  · exact absurd h (asks_importForm.ne_some rfl _ _ _)
  · exact absurd h (asks_exportForm.ne_some rfl _ _ _)
  · exact absurd h (asks_callForm.ne_some rfl _ _ _)

theorem tight_addon (q : Quoted) (rest : List Cell) :
    Tight (some ⟨q.specifier, true, false, true, false⟩) rest.length
      (plain "require.addon(".toList ++ (q.cells ++ (plain [')'] ++ plain ending))) rest := by
  refine tight_of_front (keeps_of_forms ?_) (by decide) (clear_back q (by decide))
  intro before entry after h
  rw [List.append_assoc, List.append_assoc] at h
  rcases h with h | h | h | h | h | h
  · obtain ⟨-, rfl, rfl⟩ := (addonForm_written q).1 h
    exact ⟨rfl, length_le_ending rest⟩
  · exact absurd h (asks_assetForm.ne_some rfl _ _ _)
  · exact absurd h (requireForm_ne_some rfl rfl _ _ _)
  · exact absurd h (asks_importForm.ne_some rfl _ _ _)
  · exact absurd h (asks_exportForm.ne_some rfl _ _ _)
  · exact absurd h (asks_callForm.ne_some rfl _ _ _)

theorem tight_bareAddon (rest : List Cell) :
    Tight (some ⟨"", true, false, true, false⟩) rest.length
      (plain "require.addon()".toList ++ plain ending) rest := by
  refine tight_of_front (keeps_of_forms ?_) (by decide) (by decide)
  intro before entry after h
  rcases h with h | h | h | h | h | h
  · obtain ⟨-, rfl, rfl⟩ := addonForm_bare.1 h
    exact ⟨rfl, length_le_ending rest⟩
  · exact absurd h (asks_assetForm.ne_some rfl _ _ _)
  · exact absurd h (requireForm_ne_some rfl rfl _ _ _)
  · exact absurd h (asks_importForm.ne_some rfl _ _ _)
  · exact absurd h (asks_exportForm.ne_some rfl _ _ _)
  · exact absurd h (asks_callForm.ne_some rfl _ _ _)

theorem tight_call (q : Quoted) (asset : Bool) (rest : List Cell) :
    Tight (some ⟨q.specifier, false, asset, false, true⟩) rest.length
      (plain "import(".toList ++ (q.cells ++ (optionsCells asset ++ plain [')'] ++ plain ending))) rest := by
  have hback : clear ((optionsCells asset ++ plain [')']).map Cell.shown) = true := by
    rw [List.map_append]
    exact clear_append (clear_optionsCells asset) (by decide)
  refine tight_of_front (keeps_of_forms ?_) (by decide) (clear_back q hback)
  intro before entry after h
  rw [List.append_assoc, List.append_assoc, List.append_assoc] at h
  rcases h with h | h | h | h | h | h
  · exact absurd h (asks_addonForm.ne_some rfl _ _ _)
  · exact absurd h (asks_assetForm.ne_some rfl _ _ _)
  · exact absurd h (asks_requireForm.ne_some rfl _ _ _)
  · exact absurd h (importForm_ne_some rfl rfl _ _ _)
  · exact absurd h (asks_exportForm.ne_some rfl _ _ _)
  · obtain ⟨-, rfl, rfl⟩ := (callForm_written q asset).1 h
    exact ⟨rfl, length_le_ending rest⟩

/-! ### Static forms -/

/-- A text of characters that can stand in a clause. -/
def IsClause (text : List Char) : Prop := ∀ c ∈ text, inClause ⟨c, c⟩ = true

instance (text : List Char) : Decidable (IsClause text) :=
  decidable_of_iff ((text.all fun c => inClause ⟨c, c⟩) = true) List.all_eq_true

section Clauses

variable {text : List Char}

theorem IsClause.append {text' : List Char} (h : IsClause text) (h' : IsClause text') :
    IsClause (text ++ text') := by
  intro c hc
  rcases List.mem_append.1 hc with hc | hc
  · exact h c hc
  · exact h' c hc

theorem Quoted.inClause_mark (q : Quoted) : inClause ⟨q.mark, q.mark⟩ = false := by
  rcases q.mark_eq with h | h <;> rw [h] <;> rfl

theorem inClause_of_mem_plain (h : IsClause text) : ∀ c ∈ plain text, inClause c = true := by
  intro c hc
  obtain ⟨d, hd, rfl⟩ := List.mem_map.1 hc
  exact h d hd

/-- The clause ends at the quote. -/
theorem takeWhile_clause (h : IsClause text) (q : Quoted) (rest : List Cell) :
    (plain text ++ (q.cells ++ rest)).takeWhile inClause = plain text := by
  rw [q.cells_append, List.takeWhile_append_of_pos (inClause_of_mem_plain h),
    List.takeWhile_cons_of_neg (by simp [q.inClause_mark]), List.append_nil]

theorem dropWhile_clause (h : IsClause text) (q : Quoted) (rest : List Cell) :
    (plain text ++ (q.cells ++ rest)).dropWhile inClause = q.cells ++ rest := by
  rw [q.cells_append, List.dropWhile_append_of_pos (inClause_of_mem_plain h),
    List.dropWhile_cons_of_neg (by simp [q.inClause_mark])]

/-- No call is opened in a clause. -/
theorem word?_parenthesis_clause (h : IsClause text) (q : Quoted) (rest : List Cell) :
    word? ['('] (skipBlanks (plain text ++ (q.cells ++ rest))) = none := by
  induction text with
  | nil =>
    rw [plain_nil, List.nil_append, q.skipBlanks_cells, q.cells_append, word?, if_neg]
    rcases q.mark_eq with h | h <;> rw [h] <;> decide
  | cons c text ih =>
    have hparenthesis : c ≠ '(' := by
      rintro rfl
      cases h '(' List.mem_cons_self
    rw [plain_cons, List.cons_append, skipBlanks]
    by_cases hblank : isBlank c = true
    · rw [List.dropWhile_cons, if_pos hblank]
      exact ih fun d hd => h d (List.mem_cons_of_mem _ hd)
    · rw [List.dropWhile_cons, if_neg hblank, word?, if_neg hparenthesis]

/-- A word that begins in a clause goes on in it. -/
theorem exists_of_word?_clause {word : List Char} (hquotes : '"' ∉ word ∧ '\'' ∉ word) {q : Quoted}
    {rest start : List Cell} (h : word? word (plain text ++ (q.cells ++ rest)) = some start) :
    ∃ text', text = word ++ text' ∧ start = plain text' ++ (q.cells ++ rest) := by
  have hmark : q.mark ∉ word := by
    rcases q.mark_eq with hq | hq <;> rw [hq]
    · exact hquotes.1
    · exact hquotes.2
  rw [q.cells_append] at h ⊢
  exact exists_of_word?_plain hmark h

variable {before : Option Char} {rest after : List Cell} {entry : Entry} {keyword : String}
  {allowed : List Cell → Bool}

/-- A static form whose keyword begins in a clause goes on to the specifier and the attributes after it. -/
theorem eq_of_staticForm (h : IsClause text) (hkeyword : '"' ∉ keyword.toList ∧ '\'' ∉ keyword.toList)
    (q : Quoted) (asset : Bool)
    (hmatch : staticForm keyword allowed before
      (plain text ++ (q.cells ++ (attributesCells asset ++ (plain ending ++ rest)))) =
        some (entry, after)) :
    ⟨q.specifier, false, asset, false, true⟩ = entry ∧ plain ending ++ rest = after := by
  obtain ⟨-, start, hstart, -, read, hread, hentry, hafter⟩ := staticForm_eq_some_iff.1 hmatch
  obtain ⟨text', rfl, rfl⟩ := exists_of_word?_clause hkeyword hstart
  have htext' : IsClause text' := fun c hc => h c (List.mem_append_right _ hc)
  obtain ⟨habout, hattributes⟩ := attributes_attributesCells asset rest
  rw [dropWhile_clause htext', q.specifier?_cells, Option.some.injEq] at hread
  subst hread
  rw [habout, q.actualText_hidden] at hentry
  exact ⟨hentry, hattributes.symm.trans hafter⟩

/-- A static form finds what is written after its keyword, if its clause is allowed. -/
theorem staticForm_written (h : IsClause text) (q : Quoted) (asset : Bool)
    (hbefore : beginsKeyword before = true) (hallowed : allowed (plain text) = true) :
    staticForm keyword allowed before
      (plain (keyword.toList ++ text) ++
        (q.cells ++ (attributesCells asset ++ (plain ending ++ rest)))) =
      some (⟨q.specifier, false, asset, false, true⟩, plain ending ++ rest) := by
  obtain ⟨habout, hattributes⟩ := attributes_attributesCells asset rest
  rw [staticForm_eq_some_iff, plain_append, List.append_assoc]
  refine ⟨hbefore, _, word?_plain _ _, ?_,
    (hidden q.body, attributesCells asset ++ (plain ending ++ rest)), ?_, ?_, hattributes⟩
  · rw [takeWhile_clause h]
    exact hallowed
  · rw [dropWhile_clause h]
    exact q.specifier?_cells _
  · rw [habout, q.actualText_hidden]

/-- Whatever is found at the front of a clause is the entry of the static form. -/
theorem keeps_clause (h : IsClause text) (q : Quoted) (asset : Bool) (rest : List Cell) :
    Keeps (some ⟨q.specifier, false, asset, false, true⟩) rest.length
      (plain text ++ (q.cells ++ (attributesCells asset ++ (plain ending ++ rest)))) := by
  have hdot : '.' ∉ text := by
    intro hmem
    cases h '.' hmem
  refine keeps_of_forms ?_
  intro before entry after hmatch
  rcases hmatch with hmatch | hmatch | hmatch | hmatch | hmatch | hmatch
  · -- The keyword of this form has a dot, and no clause has one.
    obtain ⟨start, hstart⟩ := asks_addonForm _ _ _ _ hmatch
    obtain ⟨text', rfl, -⟩ := exists_of_word?_clause (by decide) hstart
    exact absurd (List.mem_append_left _ (by decide)) hdot
  · obtain ⟨start, hstart⟩ := asks_assetForm _ _ _ _ hmatch
    obtain ⟨text', rfl, -⟩ := exists_of_word?_clause (by decide) hstart
    exact absurd (List.mem_append_left _ (by decide)) hdot
  · -- A call asks for a parenthesis, and no clause has one.
    obtain ⟨-, call, hcall, opened, hopened, -⟩ := requireForm_eq_some_iff.1 hmatch
    obtain ⟨text', rfl, rfl⟩ := exists_of_word?_clause (by decide) hcall
    have htext' : IsClause text' := fun c hc => h c (List.mem_append_right _ hc)
    cases (word?_parenthesis_clause htext' q _).symm.trans hopened
  · -- A static form may begin at a name in the clause, but it goes on to the same specifier.
    obtain ⟨rfl, rfl⟩ := eq_of_staticForm h (by decide) q asset hmatch
    exact ⟨rfl, length_le_ending rest⟩
  · obtain ⟨rfl, rfl⟩ := eq_of_staticForm h (by decide) q asset hmatch
    exact ⟨rfl, length_le_ending rest⟩
  · obtain ⟨-, call, hcall, opened, hopened, -⟩ := callForm_eq_some_iff.1 hmatch
    obtain ⟨text', rfl, rfl⟩ := exists_of_word?_clause (by decide) hcall
    have htext' : IsClause text' := fun c hc => h c (List.mem_append_right _ hc)
    cases (word?_parenthesis_clause htext' q _).symm.trans hopened

/-- Whatever is found in a static form, keyword and clause, is its entry. -/
theorem tight_static (h : IsClause text) (q : Quoted) (asset : Bool) (rest : List Cell) :
    Tight (some ⟨q.specifier, false, asset, false, true⟩) rest.length
      (plain text ++ (q.cells ++ (attributesCells asset ++ plain ending))) rest := by
  refine tight_append ?_ (tight_of_clear (clear_back q (clear_attributesCells asset)) _ _ _)
  rw [List.append_assoc, List.append_assoc]
  induction text with
  | nil => exact tight_nil _ _ _
  | cons c text ih => exact ⟨keeps_clause h q asset rest, ih fun d hd => h d (List.mem_cons_of_mem _ hd)⟩

/-- A clause that ends in `from` names a source. -/
theorem namesSource_from (clause : List Char) :
    namesSource (plain (' ' :: clause ++ " from ".toList)) = true := by
  have hreverse : (plain (' ' :: clause ++ " from ".toList)).reverse =
      plain " morf ".toList ++ plain (clause.reverse ++ [' ']) := by
    simp [plain]
  rw [namesSource, hreverse]
  cases clause.reverse <;> rfl

end Clauses

end ModuleReach.Source
