import Mathlib.Data.Option.Basic
import ModuleReach.Proofs.Source.Blocks
import ModuleReach.Proofs.Source.Pieces

/-!
# What the forms find

Each form asks for a keyword, and then for what may follow it.  So nothing is found where no keyword begins; and where a
source is written in one of the usual ways, the specifier that a form reads is the one that was written.

## Main definitions

* `Source.clear` — texts in which no keyword begins, whatever follows.
* `Source.Asks` — the forms that ask for a word first.
* `Source.Quoted` — a specifier in quotes.

## Main results

* `Source.addonForm_eq_some_iff` and the four after it — when the forms find something.
* `Source.tight_of_clear` — nothing is found in a clear text.
* `Source.Quoted.specifier?_cells` — a specifier in quotes is read back.
-/

namespace ModuleReach.Source

open Text (isBlank isWordChar)

/-! ### When a form finds something -/

section Forms

variable {before : Option Char} {cs after : List Cell} {entry : Entry}

theorem addonForm_eq_some_iff : addonForm before cs = some (entry, after) ↔
    beginsWord before = true ∧ ∃ call, word? "require.addon".toList cs = some call ∧
      ∃ opened, word? ['('] (skipBlanks call) = some opened ∧
        endOfArgument? (skipBlanks ((quoted? (skipBlanks opened)).getD ([], skipBlanks opened)).2) =
          some after ∧
        ⟨actualText ((quoted? (skipBlanks opened)).getD ([], skipBlanks opened)).1,
          true, false, true, false⟩ = entry := by
  simp [addonForm, Option.bind_eq_some_iff, Option.guard_eq_some']

theorem assetForm_eq_some_iff : assetForm before cs = some (entry, after) ↔
    beginsWord before = true ∧ ∃ call, word? "require.asset".toList cs = some call ∧
      ∃ opened, word? ['('] (skipBlanks call) = some opened ∧
        ∃ read, specifier? (skipBlanks opened) = some read ∧
          endOfArgument? (skipBlanks read.2) = some after ∧
          ⟨actualText read.1, false, true, true, false⟩ = entry := by
  simp [assetForm, Option.bind_eq_some_iff, Option.guard_eq_some']

theorem requireForm_eq_some_iff : requireForm before cs = some (entry, after) ↔
    beginsKeyword before = true ∧ ∃ call, word? "require".toList cs = some call ∧
      ∃ opened, word? ['('] (skipBlanks call) = some opened ∧
        ∃ read, specifier? (skipBlanks opened) = some read ∧
          word? [')'] (skipBlanks read.2) = some after ∧
          ⟨actualText read.1, false, false, true, false⟩ = entry := by
  simp [requireForm, Option.bind_eq_some_iff, Option.guard_eq_some']

theorem staticForm_eq_some_iff {keyword : String} {allowed : List Cell → Bool} :
    staticForm keyword allowed before cs = some (entry, after) ↔
      beginsKeyword before = true ∧ ∃ start, word? keyword.toList cs = some start ∧
        allowed (start.takeWhile inClause) = true ∧
        ∃ read, specifier? (start.dropWhile inClause) = some read ∧
          ⟨actualText read.1, false, isAssetIn (attributes read.2).1, false, true⟩ = entry ∧
          (attributes read.2).2 = after := by
  simp [staticForm, Option.bind_eq_some_iff, Option.guard_eq_some']

theorem callForm_eq_some_iff : callForm before cs = some (entry, after) ↔
    beginsKeyword before = true ∧ ∃ call, word? "import".toList cs = some call ∧
      ∃ opened, word? ['('] (skipBlanks call) = some opened ∧
        ∃ read, specifier? (skipBlanks opened) = some read ∧
          word? [')'] (options (skipBlanks read.2)).2 = some after ∧
          ⟨actualText read.1, false, isAssetIn (options (skipBlanks read.2)).1, false, true⟩ = entry := by
  simp [callForm, Option.bind_eq_some_iff, Option.guard_eq_some']

end Forms

/-- The call of `require` asks for a parenthesis after its keyword. -/
theorem requireForm_ne_some {cs call : List Cell} (hcall : word? "require".toList cs = some call)
    (hopened : word? ['('] (skipBlanks call) = none) (before : Option Char) (entry : Entry)
    (after : List Cell) : requireForm before cs ≠ some (entry, after) := by
  intro h
  obtain ⟨-, call', hcall', opened, hopened', -⟩ := requireForm_eq_some_iff.1 h
  cases hcall.symm.trans hcall'
  cases hopened.symm.trans hopened'

/-- The static import asks for a specifier after its clause. -/
theorem importForm_ne_some {cs start : List Cell} (hstart : word? "import".toList cs = some start)
    (hspecifier : specifier? (start.dropWhile inClause) = none) (before : Option Char) (entry : Entry)
    (after : List Cell) : importForm before cs ≠ some (entry, after) := by
  intro h
  obtain ⟨-, start', hstart', -, read, hread, -⟩ := staticForm_eq_some_iff.1 h
  cases hstart.symm.trans hstart'
  cases hspecifier.symm.trans hread

/-! ### Words -/

/-- A word is found where it is written. -/
theorem word?_plain (word : List Char) (rest : List Cell) : word? word (plain word ++ rest) = some rest := by
  induction word with
  | nil => rfl
  | cons c word ih =>
    rw [plain_cons, List.cons_append, word?, if_pos rfl]
    exact ih

/-- A longer word begins with the shorter one. -/
theorem word?_append (word more : List Char) (cs : List Cell) :
    word? (word ++ more) cs = (word? word cs).bind (word? more) := by
  induction word generalizing cs with
  | nil => rfl
  | cons c word ih =>
    cases cs with
    | nil => rfl
    | cons d cs =>
      rw [List.cons_append, word?, word?]
      split
      · exact ih cs
      · rfl

/-- A word that is found in front of a character that is not in it stands in the text before that character. -/
theorem exists_of_word?_plain {word text : List Char} {c : Cell} {rest start : List Cell}
    (hc : c.shown ∉ word) (h : word? word (plain text ++ c :: rest) = some start) :
    ∃ text', text = word ++ text' ∧ start = plain text' ++ c :: rest := by
  induction word generalizing text with
  | nil =>
    cases h
    exact ⟨text, rfl, rfl⟩
  | cons w word ih =>
    rw [List.mem_cons, not_or] at hc
    cases text with
    | nil =>
      rw [plain_nil, List.nil_append, word?, if_neg hc.1] at h
      cases h
    | cons d text =>
      rw [plain_cons, List.cons_append, word?] at h
      split at h
      · rename_i hd
        obtain ⟨text', rfl, hstart⟩ := ih hc.2 h
        exact ⟨text', congrArg (· :: _) hd, hstart⟩
      · cases h

/-! ### Clear texts -/

/-- The words with which the forms begin. -/
def keywords : List (List Char) := ["require".toList, "import".toList, "export".toList]

/-- Whether a text differs from a word where both have a character. -/
def clashes : (word text : List Char) → Bool
  | w :: word, c :: text => c ≠ w || clashes word text
  | _, _ => false

/-- Whether no keyword begins in a text, whatever follows. -/
def clear : List Char → Bool
  | [] => true
  | c :: text => keywords.all (clashes · (c :: text)) && clear text

/-- A text that differs from a word does not begin with it. -/
theorem word?_of_clashes {word : List Char} {cs : List Cell} (h : clashes word (cs.map Cell.shown) = true)
    (rest : List Cell) : word? word (cs ++ rest) = none := by
  induction cs generalizing word with
  | nil => cases word <;> cases h
  | cons c cs ih =>
    cases word with
    | nil => cases h
    | cons w word =>
      rw [List.cons_append, word?]
      split
      · rename_i hc
        refine ih ?_
        rw [List.map_cons, clashes, hc] at h
        simpa using h
      · rfl

/-- What clashes goes on to do so in a longer text. -/
theorem clashes_append {word text : List Char} (h : clashes word text = true) (more : List Char) :
    clashes word (text ++ more) = true := by
  induction text generalizing word with
  | nil => cases word <;> cases h
  | cons c text ih =>
    cases word with
    | nil => cases h
    | cons w word =>
      rw [clashes, Bool.or_eq_true] at h
      rw [List.cons_append, clashes, Bool.or_eq_true]
      exact h.imp_right ih

theorem clear_append {text more : List Char} (h : clear text = true) (h' : clear more = true) :
    clear (text ++ more) = true := by
  induction text with
  | nil => exact h'
  | cons c text ih =>
    rw [clear, Bool.and_eq_true, List.all_eq_true] at h
    rw [List.cons_append, clear, Bool.and_eq_true, List.all_eq_true]
    exact ⟨fun word hword => clashes_append (h.1 word hword) more, ih h.2⟩

/-- A text without the first letters of the keywords is clear. -/
theorem clear_of_forall {text : List Char} (h : ∀ c ∈ text, c ≠ 'r' ∧ c ≠ 'i' ∧ c ≠ 'e') :
    clear text = true := by
  induction text with
  | nil => rfl
  | cons c text ih =>
    obtain ⟨hr, hi, he⟩ := h c List.mem_cons_self
    rw [clear, Bool.and_eq_true]
    refine ⟨?_, ih fun d hd => h d (List.mem_cons_of_mem _ hd)⟩
    simp [keywords, clashes, hr, hi, he]

/-- Whether a form asks for a word first. -/
def Asks (form : Form) (word : List Char) : Prop :=
  ∀ before cs entry after, form before cs = some (entry, after) → ∃ start, word? word cs = some start

/-- Without its word a form finds nothing. -/
theorem Asks.ne_some {form : Form} {word : List Char} (h : Asks form word) {cs : List Cell}
    (hword : word? word cs = none) (before : Option Char) (entry : Entry) (after : List Cell) :
    form before cs ≠ some (entry, after) := by
  intro hmatch
  obtain ⟨start, hstart⟩ := h before cs entry after hmatch
  cases hword.symm.trans hstart

theorem asks_addonForm : Asks addonForm "require.addon".toList := by
  intro before cs entry after h
  obtain ⟨-, call, hcall, -⟩ := addonForm_eq_some_iff.1 h
  exact ⟨call, hcall⟩

theorem asks_assetForm : Asks assetForm "require.asset".toList := by
  intro before cs entry after h
  obtain ⟨-, call, hcall, -⟩ := assetForm_eq_some_iff.1 h
  exact ⟨call, hcall⟩

theorem asks_requireForm : Asks requireForm "require".toList := by
  intro before cs entry after h
  obtain ⟨-, call, hcall, -⟩ := requireForm_eq_some_iff.1 h
  exact ⟨call, hcall⟩

theorem asks_staticForm (keyword : String) (allowed : List Cell → Bool) :
    Asks (staticForm keyword allowed) keyword.toList := by
  intro before cs entry after h
  obtain ⟨-, start, hstart, -⟩ := staticForm_eq_some_iff.1 h
  exact ⟨start, hstart⟩

theorem asks_importForm : Asks importForm "import".toList := asks_staticForm _ _

theorem asks_exportForm : Asks exportForm "export".toList := asks_staticForm _ _

theorem asks_callForm : Asks callForm "import".toList := by
  intro before cs entry after h
  obtain ⟨-, call, hcall, -⟩ := callForm_eq_some_iff.1 h
  exact ⟨call, hcall⟩

/-- A form that asks for a longer word asks for the shorter one. -/
theorem Asks.of_append {form : Form} {word more : List Char} (h : Asks form (word ++ more)) :
    Asks form word := by
  intro before cs entry after hmatch
  obtain ⟨start, hstart⟩ := h before cs entry after hmatch
  rw [word?_append, Option.bind_eq_some_iff] at hstart
  obtain ⟨start', hstart', -⟩ := hstart
  exact ⟨start', hstart'⟩

/-- Every form asks for a keyword. -/
theorem exists_asks {form : Form} (hform : form ∈ forms) : ∃ word ∈ keywords, Asks form word := by
  have hrequire : "require".toList ∈ keywords := by decide
  have himport : "import".toList ∈ keywords := by decide
  have hexport : "export".toList ∈ keywords := by decide
  have haddon : Asks addonForm ("require".toList ++ ".addon".toList) := asks_addonForm
  have hasset : Asks assetForm ("require".toList ++ ".asset".toList) := asks_assetForm
  simp only [forms, List.mem_cons, List.not_mem_nil, or_false] at hform
  rcases hform with rfl | rfl | rfl | rfl | rfl | rfl
  · exact ⟨_, hrequire, haddon.of_append⟩
  · exact ⟨_, hrequire, hasset.of_append⟩
  · exact ⟨_, hrequire, asks_requireForm⟩
  · exact ⟨_, himport, asks_importForm⟩
  · exact ⟨_, hexport, asks_exportForm⟩
  · exact ⟨_, himport, asks_callForm⟩

/-- Nothing is found in a clear text. -/
theorem tight_of_clear {cs : List Cell} (h : clear (cs.map Cell.shown) = true) (request? : Option Entry)
    (limit : Nat) (rest : List Cell) : Tight request? limit cs rest := by
  induction cs with
  | nil => exact tight_nil _ _ _
  | cons c cs ih =>
    rw [List.map_cons, clear, Bool.and_eq_true, List.all_eq_true] at h
    refine ⟨?_, ih h.2⟩
    intro form hform before entry after hmatch
    obtain ⟨word, hword, hasks⟩ := exists_asks hform
    have hclash : clashes word ((c :: cs).map Cell.shown) = true := h.1 word hword
    exact absurd hmatch (hasks.ne_some (word?_of_clashes hclash rest) before entry after)

@[simp] theorem map_shown_plain (s : List Char) : (plain s).map Cell.shown = s := by
  simp [plain, Function.comp_def]

@[simp] theorem map_shown_hidden (s : List Char) : (hidden s).map Cell.shown = blanked s := by
  simp [hidden, blanked, Function.comp_def]

/-- No keyword begins in blanks. -/
theorem clear_blanked (s : List Char) : clear (blanked s) = true := by
  refine clear_of_forall ?_
  intro c hc
  obtain ⟨d, -, rfl⟩ := List.mem_map.1 hc
  split
  · subst_vars
    decide
  · decide

/-- No keyword begins with the mark of a literal. -/
theorem clear_mark {mark : Char} (h : isMark mark = true) : clear [mark] = true := by
  simp only [isMark, Bool.or_eq_true, beq_iff_eq] at h
  rcases h with (rfl | rfl) | rfl <;> decide

/-- No keyword begins in a literal. -/
theorem clear_literal {mark : Char} (h : isMark mark = true) (body : List Char) :
    clear ((Piece.literal mark body).cells.map Cell.shown) = true := by
  have hshown : (Piece.literal mark body).cells.map Cell.shown = [mark] ++ (blanked body ++ [mark]) := by
    simp [Piece.cells]
  rw [hshown]
  exact clear_append (clear_mark h) (clear_append (clear_blanked body) (clear_mark h))

/-! ### Specifiers in quotes -/

/-- The body of a literal, as it is shown, can stand in quotes if it has no line breaks. -/
theorem inQuotes_of_mem_hidden {body : List Char} (hline : '\n' ∉ body) : ∀ c ∈ hidden body, inQuotes c = true := by
  intro c hc
  obtain ⟨d, hd, rfl⟩ := List.mem_map.1 hc
  have hd' : d ≠ '\n' := by
    rintro rfl
    exact hline hd
  rw [if_neg hd']
  rfl

/-- The body of a literal without line breaks is read up to its closing quote. -/
theorem quoted?_hidden {mark : Char} (hmark : mark = '"' ∨ mark = '\'') {body : List Char} (hline : '\n' ∉ body)
    (rest : List Cell) : quoted? (⟨mark, mark⟩ :: (hidden body ++ ⟨mark, mark⟩ :: rest)) = some (hidden body, rest) := by
  have hbody := inQuotes_of_mem_hidden hline
  have hclosing : inQuotes ⟨mark, mark⟩ = false := by
    rcases hmark with rfl | rfl <;> rfl
  rw [quoted?, if_pos hmark, List.dropWhile_append_of_pos hbody, List.dropWhile_cons_of_neg (by simp [hclosing]),
    List.takeWhile_append_of_pos hbody, List.takeWhile_cons_of_neg (by simp [hclosing]), List.append_nil]
  exact if_pos rfl

/-- A specifier in quotes: a text that is not empty, without the quotes it stands in, a backslash or a line break. -/
structure Quoted where
  mark : Char
  body : List Char
  mark_eq : mark = '"' ∨ mark = '\''
  body_ne : body ≠ []
  body_plain : ∀ c ∈ body, c ≠ mark ∧ c ≠ '\\' ∧ c ≠ '\n'

namespace Quoted

/-- The literal as a piece of a source. -/
def piece (q : Quoted) : Piece := .literal q.mark q.body

/-- What the forms are shown of the literal. -/
def cells (q : Quoted) : List Cell := q.piece.cells

/-- The specifier. -/
def specifier (q : Quoted) : String := String.ofList q.body

theorem closed_piece (q : Quoted) : q.piece.Closed := by
  refine ⟨?_, fun c hc => ?_⟩
  · rcases q.mark_eq with h | h <;> rw [h] <;> decide
  · obtain ⟨hmark, hslash, hbreak⟩ := q.body_plain c hc
    exact ⟨hmark, hslash, fun h => absurd h hbreak⟩

theorem cells_append (q : Quoted) (rest : List Cell) :
    q.cells ++ rest = ⟨q.mark, q.mark⟩ :: (hidden q.body ++ ⟨q.mark, q.mark⟩ :: rest) := by
  simp [cells, piece, Piece.cells]

theorem actualText_hidden (q : Quoted) : actualText (hidden q.body) = q.specifier := by
  rw [actualText, map_actual_hidden, specifier]

/-- A literal is read up to its closing quote. -/
theorem quoted?_cells (q : Quoted) (rest : List Cell) :
    quoted? (q.cells ++ rest) = some (hidden q.body, rest) := by
  rw [cells_append]
  exact quoted?_hidden q.mark_eq (fun hline => (q.body_plain _ hline).2.2 rfl) rest

theorem specifier?_cells (q : Quoted) (rest : List Cell) :
    specifier? (q.cells ++ rest) = some (hidden q.body, rest) := by
  have hne : hidden q.body ≠ [] := fun h => q.body_ne (List.map_eq_nil_iff.1 h)
  rw [specifier?, quoted?_cells]
  simp [hne]

/-- No blanks stand in front of a literal. -/
theorem skipBlanks_cells (q : Quoted) (rest : List Cell) :
    skipBlanks (q.cells ++ rest) = q.cells ++ rest := by
  rw [cells_append, skipBlanks, List.dropWhile_cons_of_neg]
  rcases q.mark_eq with h | h <;> rw [h] <;> decide

/-- No keyword begins in a specifier in quotes. -/
theorem clear_cells (q : Quoted) : clear (q.cells.map Cell.shown) = true :=
  clear_literal q.closed_piece.1 q.body

end Quoted

end ModuleReach.Source
