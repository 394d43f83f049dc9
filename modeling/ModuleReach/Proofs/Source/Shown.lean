import ModuleReach.Proofs.Source.Forms
import ModuleReach.Proofs.Source.Stripped

/-!
# What the forms are shown of a source

Of any source the forms are shown its pieces one after the other.  All that is shown of a comment or of the body of a
literal are blanks and line breaks, so any other character but a mark stands in the source as it is shown and outside of
both.

A quote is shown where a literal begins or ends, or where it opens nothing.  If there are none of the latter, the first quote
after a character outside of the literals opens a literal, and a specifier that is read there is the body of this literal.

## Main definitions

* `Source.isInk` — the characters that are neither marks nor left by blanking.
* `Source.LeadsTo` — a text in front of another one, with no marks between.
* `Source.QuotesPaired` — the sources all of whose quotes stand in literals.

## Main results

* `Source.cells_stripComments_eq` — the forms are shown the pieces of a source.
* `Source.exists_of_drop_cells` — where a character of ink is shown.
* `Source.quotesPaired_iff` — quotes that open nothing, as pieces of the source.
* `Source.exists_literal_of_leadsTo`, `Source.eq_hidden_of_quoted?` — a specifier is read from a literal, and is all of its
  body.
-/

namespace ModuleReach.Source

open Text (isBlank)

/-! ### Pieces and their offsets -/

theorem mem_placed_iff {offset o : ℕ} {p : Piece} {ps : List Piece} :
    (o, p) ∈ placed offset ps ↔
      ∃ front back, ps = front ++ p :: back ∧ o = offset + (front.flatMap Piece.text).length := by
  constructor
  · intro h
    induction ps generalizing offset with
    | nil => simp [placed] at h
    | cons q ps ih =>
      rw [placed, List.mem_cons, Prod.mk.injEq] at h
      rcases h with ⟨rfl, rfl⟩ | h
      · exact ⟨[], ps, rfl, by simp⟩
      · obtain ⟨front, back, rfl, rfl⟩ := ih h
        exact ⟨q :: front, back, rfl, by simp; omega⟩
  · rintro ⟨front, back, rfl, rfl⟩
    rw [placed_append, placed]
    simp

/-- Offsets begin with the given one. -/
theorem le_of_mem_placed {offset : ℕ} {x : ℕ × Piece} {ps : List Piece} (h : x ∈ placed offset ps) :
    offset ≤ x.1 := by
  obtain ⟨front, back, -, ho⟩ := mem_placed_iff.1 h
  omega

/-- A character that is a piece of its own stands in no other piece. -/
theorem eq_of_mem_placed_other {offset o : ℕ} {c : Char} {x : ℕ × Piece} {ps : List Piece}
    (hc : (o, .other c) ∈ placed offset ps) (hx : x ∈ placed offset ps) (hle : x.1 ≤ o)
    (hlt : o < x.1 + x.2.text.length) : x = (o, .other c) := by
  induction ps generalizing offset with
  | nil => simp [placed] at hx
  | cons p ps ih =>
    rw [placed, List.mem_cons] at hc hx
    rcases hc with hc | hc
    · rcases hx with rfl | hx
      · exact hc.symm
      · -- What comes after a character begins behind it.
        obtain ⟨rfl, rfl⟩ := Prod.mk.inj hc
        have hbehind : o + 1 ≤ x.1 := le_of_mem_placed hx
        omega
    · rcases hx with rfl | hx
      · have hbehind : offset + p.text.length ≤ o := le_of_mem_placed hc
        dsimp only at hlt
        omega
      · exact ih hc hx

/-- Every character of a text that is put together from pieces stands in one of them. -/
theorem exists_placed_of_getElem? {f : Piece → List Char} (hf : ∀ p, (f p).length = p.text.length)
    (offset : ℕ) {i : ℕ} {c : Char} {ps : List Piece} (h : (ps.flatMap f)[i]? = some c) :
    ∃ x ∈ placed offset ps, x.1 ≤ offset + i ∧ offset + i < x.1 + x.2.text.length ∧ c ∈ f x.2 := by
  induction ps generalizing offset i with
  | nil => simp at h
  | cons p ps ih =>
    rw [List.flatMap_cons, List.getElem?_append, hf] at h
    split at h
    · rename_i hi
      refine ⟨(offset, p), List.mem_cons_self, ?_, ?_, List.mem_of_getElem? h⟩
      · show offset ≤ offset + i
        omega
      · show offset + i < offset + p.text.length
        omega
    · obtain ⟨x, hx, hle, hlt, hmem⟩ := ih (offset + p.text.length) h
      exact ⟨x, List.mem_cons_of_mem _ hx, by omega, by omega, hmem⟩

/-- A literal that is cut off a source begins with a mark. -/
theorem isMark_of_mem_pieces {s : List Char} {mark : Char} {body : List Char}
    (h : .literal mark body ∈ pieces s) : isMark mark = true := by
  have hcut : ∀ {t : List Char} {ps : List Piece}, Cut t ps → .literal mark body ∈ ps → isMark mark = true := by
    intro t ps hcut
    induction hcut with
    | nil => simp
    | literal hmark _ _ ih =>
      intro h
      rcases List.mem_cons.1 h with heq | h
      · cases heq
        exact hmark
      · exact ih h
    | unclosed _ _ _ ih | line _ _ _ ih | block _ _ ih | slash _ _ _ ih | other _ _ _ ih =>
      intro h
      exact ih (by simpa using h)
  exact hcut (cut_pieces s) h

/-! ### What is shown -/

/-- The forms are shown a source piece by piece. -/
theorem cells_stripComments_eq (s : List Char) : cells (stripComments s) = (pieces s).flatMap Piece.cells := by
  have htext : ((pieces s).flatMap Piece.uncommented).flatMap Piece.text = stripComments s := by
    rw [← pieces_stripComments, text_pieces]
  have h := zipWith_masked_flatMap (pieces s)
  rw [htext, ← pieces_stripComments] at h
  exact h

@[simp] theorem Piece.length_cells (p : Piece) : p.cells.length = p.text.length := by
  cases p <;> simp [Piece.cells, Piece.text, plain, hidden]

/-- Whether a character is neither a mark nor left by blanking. -/
def isInk (c : Char) : Bool := !isMark c && c != ' ' && c != '\n'

/-- No ink is left by blanking. -/
theorem isInk_of_mem_blanked {s : List Char} {c : Char} (h : c ∈ blanked s) : isInk c = false := by
  obtain ⟨d, -, rfl⟩ := List.mem_map.1 h
  split
  · subst_vars
    decide
  · decide

/-- What is shown of the body of a literal are blanks and line breaks. -/
theorem shown_mem_blanked {s : List Char} {c : Cell} (h : c ∈ hidden s) : c.shown ∈ blanked s := by
  rw [← map_shown_hidden]
  exact List.mem_map_of_mem h

/-- A piece of which ink is shown is a character by itself. -/
theorem Piece.eq_other_of_isInk {p : Piece} (hp : ∀ mark body, p = .literal mark body → isMark mark = true)
    {c : Cell} (h : c ∈ p.cells) (hc : isInk c.shown = true) : p = .other c.shown := by
  cases p with
  | literal mark body =>
    have hmark : isMark mark = true := hp mark body rfl
    have hshown : isInk c.shown = false := by
      simp only [Piece.cells, List.cons_append, List.mem_cons, List.mem_append, List.not_mem_nil, or_false] at h
      rcases h with rfl | h | rfl
      · simp [isInk, hmark]
      · exact isInk_of_mem_blanked (shown_mem_blanked h)
      · simp [isInk, hmark]
    simp [hshown] at hc
  | comment text =>
    obtain ⟨d, hd, rfl⟩ := List.mem_map.1 h
    simp [isInk_of_mem_blanked hd] at hc
  | other d =>
    obtain rfl := List.mem_singleton.1 h
    rfl

/-- Where ink is shown, the source has a character by itself, and what is shown after it are the other pieces. -/
theorem exists_of_drop_cells {ps : List Piece} (hps : ∀ mark body, .literal mark body ∈ ps → isMark mark = true)
    {i : ℕ} {c : Cell} {rest : List Cell} (h : (ps.flatMap Piece.cells).drop i = c :: rest)
    (hc : isInk c.shown = true) :
    ∃ front back, ps = front ++ .other c.shown :: back ∧ i = (front.flatMap Piece.text).length ∧
      rest = back.flatMap Piece.cells := by
  induction ps generalizing i with
  | nil => simp at h
  | cons p ps ih =>
    rw [List.flatMap_cons, List.drop_append] at h
    by_cases hi : i < p.cells.length
    · -- The character is one of the first piece, so it is this piece.
      rw [List.drop_eq_getElem_cons hi, List.cons_append, List.cons.injEq] at h
      obtain ⟨hfirst, hrest⟩ := h
      have hmem : c ∈ p.cells := hfirst ▸ List.getElem_mem hi
      have hp : p = .other c.shown :=
        Piece.eq_other_of_isInk (fun mark body h => hps mark body (h ▸ List.mem_cons_self)) hmem hc
      subst hp
      have hzero : i = 0 := by simpa [Piece.cells] using hi
      subst hzero
      exact ⟨[], ps, rfl, rfl, by simpa [Piece.cells] using hrest.symm⟩
    · rw [List.drop_eq_nil_of_le (by omega), List.nil_append] at h
      obtain ⟨front, back, hsplit, hi', hrest⟩ := ih (fun mark body h => hps mark body (List.mem_cons_of_mem _ h)) h
      refine ⟨p :: front, back, by rw [hsplit, List.cons_append], ?_, hrest⟩
      rw [List.flatMap_cons, List.length_append, ← hi', Piece.length_cells]
      rw [Piece.length_cells] at hi
      omega

/-- What is shown, unless it is a blank, is the character of the source. -/
theorem getElem?_of_shown {s : List Char} {i : ℕ} {c : Cell} (h : (cells (stripComments s))[i]? = some c)
    (hc : c.shown ≠ ' ') : s[i]? = some c.shown := by
  have hmasked : (maskLiterals (stripComments s))[i]? = some c.shown := by
    rw [cells, List.getElem?_zipWith] at h
    revert h
    cases (maskLiterals (stripComments s))[i]? <;> cases (stripComments s)[i]? <;> simp
    rintro rfl
    rfl
  have hblanked : ∀ {t t' : List Char}, List.Forall₂ BlankedTo t t' → t'[i]? = some c.shown → t[i]? = some c.shown := by
    intro t t' htt' ht'
    obtain ⟨d, hd, hcd⟩ : ∃ d, t[i]? = some d ∧ BlankedTo d c.shown := by
      have hi' : i < t'.length := (List.getElem?_eq_some_iff.1 ht').1
      have hi : i < t.length := htt'.length_eq ▸ hi'
      refine ⟨t[i], List.getElem?_eq_getElem hi, ?_⟩
      rw [← (List.getElem?_eq_some_iff.1 ht').2]
      exact htt'.get hi hi'
    rw [hd, hcd.eq hc]
  exact hblanked (forall₂_stripComments s) (hblanked (forall₂_maskLiterals _) hmasked)

/-- A word without blanks that is shown stands in the source. -/
theorem isPrefix_of_word? {s word : List Char} {i : ℕ} {start : List Cell} (hword : ' ' ∉ word)
    (h : word? word ((cells (stripComments s)).drop i) = some start) : word <+: s.drop i := by
  induction word generalizing i with
  | nil => exact List.nil_prefix
  | cons w word ih =>
    rw [List.mem_cons, not_or] at hword
    cases hdrop : (cells (stripComments s)).drop i with
    | nil => simp [hdrop, word?] at h
    | cons c rest =>
      rw [hdrop, word?] at h
      split at h
      · rename_i hshown
        have hc : (cells (stripComments s))[i]? = some c := by
          rw [← List.head?_drop, hdrop, List.head?_cons]
        have hrest : (cells (stripComments s)).drop (i + 1) = rest := by
          rw [← List.tail_drop, hdrop, List.tail_cons]
        have hs : s[i]? = some w := hshown ▸ getElem?_of_shown hc (hshown ▸ Ne.symm hword.1)
        obtain ⟨hi, hsi⟩ := List.getElem?_eq_some_iff.1 hs
        rw [List.drop_eq_getElem_cons hi, hsi, List.cons_prefix_cons]
        exact ⟨rfl, ih hword.2 (hrest ▸ h)⟩
      · cases h

/-! ### From a keyword to a quote -/

/-- Whether a text leads to another one, with nothing but characters that are no marks before it. -/
def LeadsTo (cs cs' : List Cell) : Prop := ∃ skipped, cs = skipped ++ cs' ∧ ∀ c ∈ skipped, isMark c.shown = false

namespace LeadsTo

theorem trans {cs cs' cs'' : List Cell} (h : LeadsTo cs cs') (h' : LeadsTo cs' cs'') : LeadsTo cs cs'' := by
  obtain ⟨skipped, rfl, hskipped⟩ := h
  obtain ⟨skipped', rfl, hskipped'⟩ := h'
  refine ⟨skipped ++ skipped', by simp, ?_⟩
  rw [List.forall_mem_append]
  exact ⟨hskipped, hskipped'⟩

theorem tail {c c' : Cell} {cs cs' : List Cell} (h : LeadsTo (c :: cs) (c' :: cs')) (hc : c.shown ≠ c'.shown) :
    LeadsTo cs (c' :: cs') := by
  obtain ⟨skipped, heq, hskipped⟩ := h
  cases skipped with
  | nil =>
    obtain ⟨rfl, -⟩ := List.cons.inj heq
    exact absurd rfl hc
  | cons d skipped =>
    obtain ⟨-, rfl⟩ := List.cons.inj heq
    exact ⟨skipped, rfl, fun e he => hskipped e (List.mem_cons_of_mem _ he)⟩

theorem dropWhile {p : Cell → Bool} (hp : ∀ c, p c = true → isMark c.shown = false) (cs : List Cell) :
    LeadsTo cs (cs.dropWhile p) :=
  ⟨cs.takeWhile p, List.takeWhile_append_dropWhile.symm, fun c hc => hp c (List.mem_takeWhile_imp hc)⟩

end LeadsTo

/-- What a word is read from, is the word. -/
theorem exists_of_word? {word : List Char} {cs start : List Cell} (h : word? word cs = some start) :
    ∃ front, cs = front ++ start ∧ front.map Cell.shown = word := by
  induction word generalizing cs with
  | nil =>
    cases h
    exact ⟨[], rfl, rfl⟩
  | cons w word ih =>
    cases cs with
    | nil => cases h
    | cons c cs =>
      rw [word?] at h
      split at h
      · rename_i hc
        obtain ⟨front, rfl, hfront⟩ := ih h
        exact ⟨c :: front, rfl, by simp [hc, hfront]⟩
      · cases h

theorem leadsTo_of_word? {word : List Char} (hword : word.all (fun c => !isMark c) = true) {cs start : List Cell}
    (h : word? word cs = some start) : LeadsTo cs start := by
  obtain ⟨front, rfl, hfront⟩ := exists_of_word? h
  refine ⟨front, rfl, ?_⟩
  intro c hc
  have hmem : c.shown ∈ word := hfront ▸ List.mem_map_of_mem hc
  simpa using List.all_eq_true.1 hword _ hmem

/-- A mark is no blank and stands in no clause. -/
theorem isMark_eq_false_of_inClause {c : Cell} (h : inClause c = true) : isMark c.shown = false := by
  rw [Bool.eq_false_iff]
  intro hmark
  simp only [isMark, Bool.or_eq_true, beq_iff_eq] at hmark
  rcases hmark with (hc | hc) | hc <;> simp only [inClause, hc] at h <;> cases h

theorem isMark_eq_false_of_isBlank {c : Cell} (h : isBlank c.shown = true) : isMark c.shown = false :=
  isMark_eq_false_of_inClause (by simp [inClause, h])

theorem leadsTo_skipBlanks (cs : List Cell) : LeadsTo cs (skipBlanks cs) :=
  LeadsTo.dropWhile (fun _ => isMark_eq_false_of_isBlank) cs

/-- The first argument of a call is reached without marks. -/
theorem leadsTo_argument {word : List Char} (hword : word.all (fun c => !isMark c) = true)
    {cs call opened : List Cell} (hcall : word? word cs = some call)
    (hopened : word? ['('] (skipBlanks call) = some opened) : LeadsTo cs (skipBlanks opened) := by
  have hparenthesis : LeadsTo (skipBlanks call) opened := leadsTo_of_word? (by decide) hopened
  exact (leadsTo_of_word? hword hcall).trans ((leadsTo_skipBlanks call).trans (hparenthesis.trans (leadsTo_skipBlanks opened)))

/-- A specifier that is not empty is read from quotes that a form reaches without marks before them. -/
theorem exists_quoted_of_form {form : Form} (hform : form ∈ forms) {before : Option Char} {cs after : List Cell}
    {entry : Entry} (h : form before cs = some (entry, after)) (hne : entry.specifier ≠ "") :
    ∃ argument read, LeadsTo cs argument ∧ quoted? argument = some read ∧ entry.specifier = actualText read.1 := by
  have hspecifier : ∀ {argument read}, specifier? argument = some read → quoted? argument = some read :=
    fun hread => (Option.filter_eq_some_iff.1 hread).1
  have hstatic : ∀ {keyword : String} {allowed : List Cell → Bool},
      keyword.toList.all (fun c => !isMark c) = true → staticForm keyword allowed before cs = some (entry, after) →
      ∃ argument read, LeadsTo cs argument ∧ quoted? argument = some read ∧ entry.specifier = actualText read.1 := by
    intro keyword allowed hkeyword h
    obtain ⟨-, start, hstart, -, read, hread, rfl, -⟩ := staticForm_eq_some_iff.1 h
    have hclause := LeadsTo.dropWhile (fun _ => isMark_eq_false_of_inClause) start
    exact ⟨_, read, (leadsTo_of_word? hkeyword hstart).trans hclause, hspecifier hread, rfl⟩
  simp only [forms, List.mem_cons, List.not_mem_nil, or_false] at hform
  rcases hform with rfl | rfl | rfl | rfl | rfl | rfl
  · obtain ⟨-, call, hcall, opened, hopened, -, rfl⟩ := addonForm_eq_some_iff.1 h
    -- Without quotes the specifier of an addon is empty.
    cases hread : quoted? (skipBlanks opened) with
    | none =>
      rw [hread] at hne
      exact absurd rfl hne
    | some read => exact ⟨_, read, leadsTo_argument (by decide) hcall hopened, hread, rfl⟩
  · obtain ⟨-, call, hcall, opened, hopened, read, hread, -, rfl⟩ := assetForm_eq_some_iff.1 h
    exact ⟨_, read, leadsTo_argument (by decide) hcall hopened, hspecifier hread, rfl⟩
  · obtain ⟨-, call, hcall, opened, hopened, read, hread, -, rfl⟩ := requireForm_eq_some_iff.1 h
    exact ⟨_, read, leadsTo_argument (by decide) hcall hopened, hspecifier hread, rfl⟩
  · exact hstatic (by decide) h
  · exact hstatic (by decide) h
  · obtain ⟨-, call, hcall, opened, hopened, read, hread, -, rfl⟩ := callForm_eq_some_iff.1 h
    exact ⟨_, read, leadsTo_argument (by decide) hcall hopened, hspecifier hread, rfl⟩

/-! ### From a quote to a literal -/

/-- Whether a character is one of the quotes in which a specifier may stand. -/
def isQuote (c : Char) : Bool := c == '"' || c == '\''

/-- The sources in which every quote outside of the comments stands in a literal, as a mark or inside. -/
def QuotesPaired (s : List Char) : Prop :=
  ∀ i c, (stripComments s)[i]? = some c → isQuote c = true →
    ∃ x ∈ literals s, x.1 ≤ i ∧ i < x.1 + x.2.text.length

/-- All quotes stand in literals just if none is a piece by itself. -/
theorem quotesPaired_iff {s : List Char} : QuotesPaired s ↔ ∀ c, .other c ∈ pieces s → isQuote c = false := by
  constructor
  · intro h c hc
    rw [Bool.eq_false_iff]
    intro hquote
    obtain ⟨front, back, hsplit⟩ := List.append_of_mem hc
    have hplaced : ((front.flatMap Piece.text).length, .other c) ∈ placed 0 (pieces s) :=
      mem_placed_iff.2 ⟨front, back, hsplit, (Nat.zero_add _).symm⟩
    have hstripped : (stripComments s)[(front.flatMap Piece.text).length]? = some c := by
      have hlength : (front.flatMap Piece.stripped).length = (front.flatMap Piece.text).length := by
        simp [List.length_flatMap]
      rw [stripComments, hsplit, List.flatMap_append, ← hlength, List.getElem?_append_right (Nat.le_refl _)]
      simp [Piece.stripped, Piece.text]
    obtain ⟨x, hx, hle, hlt⟩ := h _ c hstripped hquote
    obtain ⟨hx, hliteral⟩ := List.mem_filter.1 hx
    rw [eq_of_mem_placed_other hplaced hx hle hlt] at hliteral
    cases hliteral
  · intro h i c hc hquote
    obtain ⟨x, hx, hle, hlt, hmem⟩ := exists_placed_of_getElem? length_stripped 0 hc
    rw [Nat.zero_add] at hle hlt
    refine ⟨x, List.mem_filter.2 ⟨hx, ?_⟩, hle, hlt⟩
    obtain ⟨o, p⟩ := x
    cases p with
    | literal mark body => rfl
    | comment text =>
      obtain ⟨d, -, rfl⟩ := List.mem_map.1 hmem
      split at hquote
      · subst_vars
        cases hquote
      · cases hquote
    | other d =>
      obtain rfl := List.mem_singleton.1 hmem
      obtain ⟨front, back, hsplit, -⟩ := mem_placed_iff.1 hx
      have hother : .other c ∈ pieces s := by simp [hsplit]
      cases hquote.symm.trans (h c hother)

/-- A quote is shown only of literals, and of the quote itself. -/
theorem Piece.notMem_cells {p : Piece} (hliteral : p.isLiteral = false) (hother : ∀ c, p = .other c → isQuote c = false)
    {c : Cell} (hc : isQuote c.shown = true) : c ∉ p.cells := by
  intro h
  cases p with
  | literal mark body => cases hliteral
  | comment text =>
    obtain ⟨d, hd, rfl⟩ := List.mem_map.1 h
    have hink := isInk_of_mem_blanked hd
    obtain ⟨e, -, rfl⟩ := List.mem_map.1 hd
    split at hc
    · subst_vars
      cases hc
    · cases hc
  | other d =>
    obtain rfl := List.mem_singleton.1 h
    cases hc.symm.trans (hother d rfl)

/-- A quote that is reached from the beginning of a piece without marks opens a literal. -/
theorem exists_literal_of_leadsTo {ps : List Piece}
    (hmarks : ∀ mark body, .literal mark body ∈ ps → isMark mark = true)
    (hothers : ∀ c, .other c ∈ ps → isQuote c = false) {c : Cell} {rest : List Cell}
    (h : LeadsTo (ps.flatMap Piece.cells) (c :: rest)) (hc : isQuote c.shown = true) :
    ∃ front mark body back, ps = front ++ .literal mark body :: back ∧ c = ⟨mark, mark⟩ ∧
      rest = hidden body ++ ⟨mark, mark⟩ :: back.flatMap Piece.cells := by
  obtain ⟨skipped, heq, hskipped⟩ := h
  induction ps generalizing skipped with
  | nil => simp at heq
  | cons p ps ih =>
    have hmarks' : ∀ mark body, .literal mark body ∈ ps → isMark mark = true :=
      fun mark body h => hmarks mark body (List.mem_cons_of_mem _ h)
    have hothers' : ∀ c, .other c ∈ ps → isQuote c = false := fun c h => hothers c (List.mem_cons_of_mem _ h)
    rw [List.flatMap_cons] at heq
    cases hliteral : p.isLiteral with
    | true =>
      cases p with
      | literal mark body =>
        -- Nothing is skipped before the mark.
        rw [Piece.cells, List.cons_append, List.cons_append, List.append_assoc, List.singleton_append] at heq
        cases skipped with
        | nil =>
          rw [List.nil_append, List.cons.injEq] at heq
          obtain ⟨rfl, rfl⟩ := heq
          exact ⟨[], mark, body, ps, rfl, rfl, rfl⟩
        | cons d skipped =>
          rw [List.cons_append, List.cons.injEq] at heq
          obtain ⟨rfl, -⟩ := heq
          have hfalse := hskipped _ List.mem_cons_self
          cases hfalse.symm.trans (hmarks mark body List.mem_cons_self)
      | comment text => cases hliteral
      | other d => cases hliteral
    | false =>
      have hnotMem : c ∉ p.cells :=
        Piece.notMem_cells hliteral (fun d hd => hothers d (hd ▸ List.mem_cons_self)) hc
      rcases List.append_eq_append_iff.1 heq with ⟨more, rfl, hmore⟩ | ⟨more, hp, hmore⟩
      · obtain ⟨front, mark, body, back, rfl, hrest⟩ := ih hmarks' hothers' more
          hmore fun d hd => hskipped d (List.mem_append_right _ hd)
        exact ⟨p :: front, mark, body, back, rfl, hrest⟩
      · cases more with
        | nil =>
          obtain ⟨front, mark, body, back, rfl, hrest⟩ := ih hmarks' hothers' [] hmore.symm (by simp)
          exact ⟨p :: front, mark, body, back, rfl, hrest⟩
        | cons d more =>
          rw [List.cons_append, List.cons.injEq] at hmore
          obtain ⟨rfl, -⟩ := hmore
          exact absurd (hp ▸ List.mem_append_right _ List.mem_cons_self) hnotMem

/-- What is read from the quotes of a literal is its body, and the body has no line breaks. -/
theorem eq_hidden_of_quoted? {mark : Char} (hmark : isQuote mark = true) {body : List Char}
    {after : List Cell} {read : List Cell × List Cell}
    (h : quoted? (⟨mark, mark⟩ :: (hidden body ++ ⟨mark, mark⟩ :: after)) = some read) :
    '\n' ∉ body ∧ read.1 = hidden body := by
  have hquote : mark = '"' ∨ mark = '\'' := by simpa [isQuote] using hmark
  by_cases hline : '\n' ∈ body
  · -- Reading stops at the first line break, which is no quote.
    obtain ⟨front, back, rfl, hfront⟩ := List.eq_append_cons_of_mem hline
    have hbreak : '\n' ≠ mark := by
      rcases hquote with rfl | rfl <;> decide
    have hstop : (hidden (front ++ '\n' :: back) ++ ⟨mark, mark⟩ :: after).dropWhile inQuotes =
        ⟨'\n', '\n'⟩ :: (hidden back ++ ⟨mark, mark⟩ :: after) := by
      have hsplit : hidden (front ++ '\n' :: back) = hidden front ++ ⟨'\n', '\n'⟩ :: hidden back := by simp [hidden]
      rw [hsplit, List.append_assoc, List.dropWhile_append_of_pos (inQuotes_of_mem_hidden hfront), List.cons_append,
        List.dropWhile_cons_of_neg (by decide)]
    rw [quoted?, if_pos hquote, hstop] at h
    simp [hbreak] at h
  · rw [quoted?_hidden hquote hline] at h
    cases h
    exact ⟨hline, rfl⟩

end ModuleReach.Source
