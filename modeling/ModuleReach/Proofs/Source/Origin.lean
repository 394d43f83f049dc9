import Mathlib.Data.List.Pairwise
import ModuleReach.Proofs.Source.Named
import ModuleReach.Proofs.Source.Shown

/-!
# Where the entries of a source come from

An entry is found where a keyword stands, outside of all comments and literals.  If all quotes stand in literals, the
specifier of an entry is the whole body of a literal behind the keyword.

At one place no two forms find something, since what follows a keyword suits one form only.  So no two entries are found at
one offset, and the entries, each given once, are in the order of the offsets at which they are first found.

## Main definitions

* `Source.StandsFree` — the offsets outside of all comments and literals.
* `Source.FoundBefore` — the order of first offsets.

## Main results

* `Source.standsFree_of_mem_located` — where something is found a keyword stands free.
* `Source.exists_literal_of_mem_located` — a specifier is the body of a literal.
* `Source.eq_of_mem_located` — at one offset there is one entry.
* `Source.entries_recognised` — what the entries of a source are.
-/

namespace ModuleReach.Source

open Text (isBlank)

/-! ### Keywords -/

/-- Whether an offset lies outside of all comments and literals of a source. -/
def StandsFree (s : List Char) (o : ℕ) : Prop :=
  ∀ x ∈ placed 0 (pieces s), x.2.isLiteral = true ∨ x.2.isComment = true → ¬ (x.1 ≤ o ∧ o < x.1 + x.2.text.length)

/-- A keyword begins with ink. -/
theorem exists_cons_of_mem_keywords {keyword : List Char} (h : keyword ∈ keywords) :
    ∃ c word, keyword = c :: word ∧ isInk c = true ∧ isQuote c = false ∧ ' ' ∉ keyword := by
  simp only [keywords, List.mem_cons, List.not_mem_nil, or_false] at h
  rcases h with rfl | rfl | rfl
  · exact ⟨'r', "equire".toList, by decide⟩
  · exact ⟨'i', "mport".toList, by decide⟩
  · exact ⟨'e', "xport".toList, by decide⟩

/-- Where a form finds something, a keyword is shown. -/
theorem exists_keyword_of_form {form : Form} (hform : form ∈ forms) {before : Option Char} {cs after : List Cell}
    {entry : Entry} (h : form before cs = some (entry, after)) :
    ∃ keyword ∈ keywords, (∃ start, word? keyword cs = some start) ∧
      ∃ c rest, cs = c :: rest ∧ isInk c.shown = true ∧ isQuote c.shown = false := by
  obtain ⟨keyword, hkeyword, hasks⟩ := exists_asks hform
  obtain ⟨start, hstart⟩ := hasks before cs entry after h
  refine ⟨keyword, hkeyword, ⟨start, hstart⟩, ?_⟩
  obtain ⟨k, word, rfl, hink, hquote, -⟩ := exists_cons_of_mem_keywords hkeyword
  obtain ⟨front, rfl, hfront⟩ := exists_of_word? hstart
  cases front with
  | nil => cases hfront
  | cons c front =>
    obtain ⟨hc, -⟩ := List.cons.inj hfront
    exact ⟨c, front ++ start, rfl, hc ▸ hink, hc ▸ hquote⟩

/-- What is found at an offset is found by a form at the front of what is shown from there. -/
theorem exists_form_of_mem_located {cs : List Cell} {o : ℕ} {entry : Entry} (h : (o, entry) ∈ located cs) :
    ∃ form ∈ forms, ∃ after,
      form (((cs.take o).getLast?.map Cell.shown).or none) (cs.drop o) = some (entry, after) := by
  obtain ⟨form, hform, hfound⟩ := mem_located_iff.1 h
  obtain ⟨i, hi, after, hmatch⟩ := exists_drop_of_mem_findAll hfound
  obtain rfl : o = i := by simpa using hi
  exact ⟨form, hform, after, hmatch⟩

section Origin

variable {s : List Char} {o : ℕ} {entry : Entry}

/-- Where something is found, the source has a keyword, which begins outside of all comments and literals. -/
theorem standsFree_of_mem_located (h : (o, entry) ∈ located (cells (stripComments s))) :
    (∃ keyword ∈ keywords, keyword <+: s.drop o) ∧ StandsFree s o := by
  obtain ⟨form, hform, after, hmatch⟩ := exists_form_of_mem_located h
  obtain ⟨keyword, hkeyword, ⟨start, hstart⟩, c, rest, hdrop, hink, -⟩ := exists_keyword_of_form hform hmatch
  obtain ⟨-, -, -, -, -, hblank⟩ := exists_cons_of_mem_keywords hkeyword
  refine ⟨⟨keyword, hkeyword, isPrefix_of_word? hblank hstart⟩, ?_⟩
  rw [cells_stripComments_eq] at hdrop
  obtain ⟨front, back, hsplit, ho, -⟩ := exists_of_drop_cells (fun _ _ => isMark_of_mem_pieces) hdrop hink
  have hplaced : (o, .other c.shown) ∈ placed 0 (pieces s) :=
    mem_placed_iff.2 ⟨front, back, hsplit, by rw [ho, Nat.zero_add]⟩
  rintro x hx hkind ⟨hle, hlt⟩
  rw [eq_of_mem_placed_other hplaced hx hle hlt] at hkind
  rcases hkind with hkind | hkind <;> cases hkind

/-- A specifier that is found is the body of a literal without line breaks, behind the place where it is found. -/
theorem exists_literal_of_mem_located (hquotes : QuotesPaired s) (h : (o, entry) ∈ located (cells (stripComments s)))
    (hne : entry.specifier ≠ "") :
    ∃ l mark body, (l, .literal mark body) ∈ literals s ∧ o < l ∧ (mark = '"' ∨ mark = '\'') ∧ '\n' ∉ body ∧
      entry.specifier = String.ofList body := by
  obtain ⟨form, hform, after, hmatch⟩ := exists_form_of_mem_located h
  obtain ⟨-, -, -, c, rest, hdrop, hink, hplain⟩ := exists_keyword_of_form hform hmatch
  obtain ⟨argument, read, hleads, hread, hspecifier⟩ := exists_quoted_of_form hform hmatch hne
  rw [cells_stripComments_eq] at hdrop hleads
  obtain ⟨front, back, hsplit, ho, hrest⟩ := exists_of_drop_cells (fun _ _ => isMark_of_mem_pieces) hdrop hink
  -- The argument begins with a quote, so it lies behind the first character of the keyword.
  obtain ⟨q, argument', rfl, hq⟩ : ∃ q argument', argument = q :: argument' ∧ isQuote q.shown = true := by
    cases argument with
    | nil => cases hread
    | cons q argument' =>
      rw [quoted?] at hread
      split at hread
      · rename_i hq
        exact ⟨q, argument', rfl, by simpa [isQuote] using hq⟩
      · cases hread
  have hback : LeadsTo (back.flatMap Piece.cells) (q :: argument') := by
    rw [hdrop, hrest] at hleads
    refine hleads.tail ?_
    intro heq
    cases hplain.symm.trans (heq ▸ hq)
  have hpieces : ∀ p, p ∈ back → p ∈ pieces s := by
    intro p hp
    rw [hsplit]
    exact List.mem_append_right _ (List.mem_cons_of_mem _ hp)
  obtain ⟨between, mark, body, behind, rfl, rfl, rfl⟩ := exists_literal_of_leadsTo
    (fun _ _ h => isMark_of_mem_pieces (hpieces _ h)) (fun c h => quotesPaired_iff.1 hquotes c (hpieces _ h)) hback hq
  obtain ⟨hline, hbody⟩ := eq_hidden_of_quoted? hq hread
  have hplaced : (o + 1 + (between.flatMap Piece.text).length, .literal mark body) ∈ placed 0 (pieces s) := by
    refine mem_placed_iff.2 ⟨front ++ .other c.shown :: between, behind, by simp [hsplit], ?_⟩
    simp [ho, Piece.text]
    omega
  refine ⟨_, mark, body, List.mem_filter.2 ⟨hplaced, rfl⟩, by omega, by simpa [isQuote] using hq, hline, ?_⟩
  rw [hspecifier, hbody, actualText, map_actual_hidden]

end Origin

/-! ### One entry at one place -/

/-- Whether two forms never find something at the same place. -/
def Excludes (f g : Form) : Prop :=
  ∀ before before' cs found found', f before cs = some found → g before' cs ≠ some found'

instance : Std.Symm Excludes where
  symm _ _ h before before' cs found found' hg hf := h before' before cs found' found hf hg

/-- Forms that ask for words that differ find nothing at one place. -/
theorem Asks.excludes {f g : Form} {word word' : List Char} (hf : Asks f word) (hg : Asks g word')
    (h : clashes word' word = true) : Excludes f g := by
  rintro before before' cs ⟨entry, after⟩ ⟨entry', after'⟩ hfound
  obtain ⟨start, hstart⟩ := hf before cs entry after hfound
  obtain ⟨front, rfl, hfront⟩ := exists_of_word? hstart
  exact hg.ne_some (word?_of_clashes (hfront ▸ h) start) before' entry' after'

/-- A call of a member of `require` is no call of `require`. -/
theorem Asks.excludes_requireForm {f : Form} {name : List Char} (hf : Asks f ("require".toList ++ '.' :: name)) :
    Excludes f requireForm := by
  rintro before before' cs ⟨entry, after⟩ ⟨entry', after'⟩ hfound
  obtain ⟨start, hstart⟩ := hf before cs entry after hfound
  rw [word?_append, Option.bind_eq_some_iff] at hstart
  obtain ⟨call, hcall, hmember⟩ := hstart
  obtain ⟨front, rfl, hfront⟩ := exists_of_word? hmember
  cases front with
  | nil => cases hfront
  | cons c front =>
    -- The dot is no blank, and no parenthesis either.
    obtain ⟨hc, -⟩ := List.cons.inj hfront
    have hskip : skipBlanks (c :: front ++ start) = c :: front ++ start :=
      List.dropWhile_cons_of_neg (by rw [hc]; decide)
    refine requireForm_ne_some hcall ?_ before' entry' after'
    rw [hskip, List.cons_append, word?, if_neg (by rw [hc]; decide)]

/-- Passing over a clause passes over the blanks at its front. -/
theorem dropWhile_inClause_skipBlanks (cs : List Cell) :
    (skipBlanks cs).dropWhile inClause = cs.dropWhile inClause := by
  induction cs with
  | nil => rfl
  | cons c cs ih =>
    rw [skipBlanks, List.dropWhile_cons]
    split
    · rename_i hblank
      have hclause : inClause c = true := by simp [inClause, hblank]
      rw [List.dropWhile_cons, if_pos hclause]
      exact ih
    · rfl

/-- A static import is no call of `import`. -/
theorem excludes_importForm_callForm : Excludes importForm callForm := by
  rintro before before' cs ⟨entry, after⟩ ⟨entry', after'⟩ himport hcall
  obtain ⟨-, call, hword, opened, hopened, -⟩ := callForm_eq_some_iff.1 hcall
  refine importForm_ne_some hword ?_ before entry after himport
  -- The parenthesis ends the clause, and no specifier begins with it.
  rw [← dropWhile_inClause_skipBlanks]
  obtain ⟨front, hskip, hfront⟩ := exists_of_word? hopened
  obtain ⟨c, rfl, hc⟩ := List.map_eq_singleton_iff.1 hfront
  have hclause : inClause c = false := by
    rw [inClause, hc]
    decide
  have hquoted : quoted? (c :: opened) = none := by
    rw [quoted?, if_neg (by rw [hc]; decide)]
  rw [hskip, List.singleton_append, List.dropWhile_cons_of_neg (by simp [hclause]), specifier?, hquoted]
  rfl

/-- No two forms find something at one place. -/
theorem pairwise_excludes : forms.Pairwise Excludes := by
  have hrequire : clashes "import".toList "require".toList = true ∧ clashes "export".toList "require".toList = true := by
    decide
  have haddon : Asks addonForm ("require".toList ++ ".addon".toList) := asks_addonForm
  have hasset : Asks assetForm ("require".toList ++ ".asset".toList) := asks_assetForm
  simp only [forms, List.pairwise_cons, List.mem_cons, List.not_mem_nil, or_false, forall_eq_or_imp, forall_eq,
    List.Pairwise.nil, and_true, false_imp_iff, implies_true]
  refine ⟨⟨?_, ?_, ?_, ?_, ?_⟩, ⟨?_, ?_, ?_, ?_⟩, ⟨?_, ?_, ?_⟩, ⟨?_, ?_⟩, ?_⟩
  · exact asks_addonForm.excludes asks_assetForm (by decide)
  · exact haddon.excludes_requireForm
  · exact haddon.of_append.excludes asks_importForm hrequire.1
  · exact haddon.of_append.excludes asks_exportForm hrequire.2
  · exact haddon.of_append.excludes asks_callForm hrequire.1
  · exact hasset.excludes_requireForm
  · exact hasset.of_append.excludes asks_importForm hrequire.1
  · exact hasset.of_append.excludes asks_exportForm hrequire.2
  · exact hasset.of_append.excludes asks_callForm hrequire.1
  · exact asks_requireForm.excludes asks_importForm hrequire.1
  · exact asks_requireForm.excludes asks_exportForm hrequire.2
  · exact asks_requireForm.excludes asks_callForm hrequire.1
  · exact asks_importForm.excludes asks_exportForm (by decide)
  · exact excludes_importForm_callForm
  · exact asks_exportForm.excludes asks_callForm (by decide)

/-- At one offset there is one entry. -/
theorem eq_of_mem_located {cs : List Cell} {o : ℕ} {entry entry' : Entry} (h : (o, entry) ∈ located cs)
    (h' : (o, entry') ∈ located cs) : entry = entry' := by
  obtain ⟨f, hf, after, hfound⟩ := exists_form_of_mem_located h
  obtain ⟨g, hg, after', hfound'⟩ := exists_form_of_mem_located h'
  by_cases hfg : f = g
  · subst hfg
    cases hfound.symm.trans hfound'
    rfl
  · have hexcludes : Excludes f g := pairwise_excludes.forall hf hg hfg
    exact absurd hfound' (hexcludes _ _ _ _ _ hfound)

/-! ### The order of entries -/

/-- Whether the first offset at which an entry is found comes before all those of another one. -/
def FoundBefore (found : List (ℕ × Entry)) (entry entry' : Entry) : Prop :=
  ∃ o, (o, entry) ∈ found ∧ ∀ o', (o', entry') ∈ found → o < o'

/-- What is found at offsets that rise, one entry at one offset, is in the order of first offsets once repeats are dropped.
The induction is on what is found; `keep` drops the entries that have come before. -/
theorem pairwise_foundBefore_filter {found : List (ℕ × Entry)} (hsorted : found.Pairwise fun x y => x.1 ≤ y.1)
    (hunique : ∀ o entry entry', (o, entry) ∈ found → (o, entry') ∈ found → entry = entry') (keep : Entry → Bool) :
    ((found.map Prod.snd).filter keep).eraseDups.Pairwise (FoundBefore found) := by
  induction found generalizing keep with
  | nil => simp
  | cons x found ih =>
    obtain ⟨o, first⟩ := x
    rw [List.pairwise_cons] at hsorted
    have hih := ih hsorted.2 fun o e e' h h' => hunique o e e' (List.mem_cons_of_mem _ h) (List.mem_cons_of_mem _ h')
    have hlater : ∀ {entry entry'}, entry' ≠ first → FoundBefore found entry entry' →
        FoundBefore ((o, first) :: found) entry entry' := by
      rintro entry entry' hne ⟨p, hp, hbefore⟩
      refine ⟨p, List.mem_cons_of_mem _ hp, ?_⟩
      intro p' hp'
      rcases List.mem_cons.1 hp' with heq | hp'
      · exact absurd (congrArg Prod.snd heq) hne
      · exact hbefore p' hp'
    rw [List.map_cons]
    cases hkeep : keep first with
    | false =>
      rw [List.filter_cons_of_neg (by simp [hkeep])]
      refine (hih keep).imp_of_mem ?_
      intro entry entry' _ hmem hbefore
      refine hlater ?_ hbefore
      rintro rfl
      simp [hkeep] at hmem
    | true =>
      rw [List.filter_cons_of_pos hkeep, List.eraseDups_cons, List.filter_filter, List.pairwise_cons]
      refine ⟨?_, ?_⟩
      · intro entry hmem
        have hne : entry ≠ first := by
          rintro rfl
          simp at hmem
        refine ⟨o, List.mem_cons_self, ?_⟩
        intro o' ho'
        rcases List.mem_cons.1 ho' with heq | hlate
        · exact absurd (congrArg Prod.snd heq) hne
        · have hle : o ≤ o' := hsorted.1 _ hlate
          have hoff : o ≠ o' := by
            rintro rfl
            exact hne (hunique o entry first ho' List.mem_cons_self)
          omega
      · refine (hih _).imp_of_mem ?_
        intro entry entry' _ hmem hbefore
        refine hlater ?_ hbefore
        rintro rfl
        simp at hmem

/-- The entries of a source are in the order of the offsets at which they are first found. -/
theorem pairwise_entries (source : String) :
    (entries source).Pairwise (FoundBefore (located (cells (stripComments source.toList)))) := by
  have h := pairwise_foundBefore_filter (pairwise_located (cells (stripComments source.toList)))
    (fun _ _ _ => eq_of_mem_located) fun _ => true
  rw [List.filter_eq_self.2 fun _ _ => rfl] at h
  exact h

/-- **No specifier is made up.**  In a source all of whose quotes stand in literals, an entry with a specifier has the whole
body of a literal in quotes for it, without line breaks, behind every place where it is found.  Every entry is found at some
offset, and there the source has a keyword, which begins outside of all comments and literals.  No entry is given twice, and
they are in the order of the offsets at which they are first found. -/
theorem entries_recognised (source : String) (hquotes : QuotesPaired source.toList) :
    (∀ entry ∈ entries source, (∃ o, (o, entry) ∈ located (cells (stripComments source.toList))) ∧
      ∀ o, (o, entry) ∈ located (cells (stripComments source.toList)) →
        (∃ keyword ∈ keywords, keyword <+: source.toList.drop o) ∧ StandsFree source.toList o ∧
        (entry.specifier ≠ "" → ∃ l mark body, (l, .literal mark body) ∈ literals source.toList ∧ o < l ∧
          (mark = '"' ∨ mark = '\'') ∧ '\n' ∉ body ∧ entry.specifier = String.ofList body)) ∧
    (entries source).Nodup ∧
    (entries source).Pairwise (FoundBefore (located (cells (stripComments source.toList)))) := by
  have horder := pairwise_entries source
  refine ⟨?_, ?_, horder⟩
  · intro entry hentry
    rw [entries, List.mem_eraseDups, List.mem_map] at hentry
    obtain ⟨⟨o, entry⟩, hfound, rfl⟩ := hentry
    refine ⟨⟨o, hfound⟩, ?_⟩
    intro o' ho'
    obtain ⟨hkeyword, hfree⟩ := standsFree_of_mem_located ho'
    exact ⟨hkeyword, hfree, exists_literal_of_mem_located hquotes ho'⟩
  · refine horder.imp ?_
    rintro entry entry' ⟨o, ho, hbefore⟩ rfl
    exact absurd (hbefore o ho) (Nat.lt_irrefl o)

/-- An apostrophe in a comment is no quote. -/
theorem entries_recognised_apostrophe :
    QuotesPaired "import 'x' // it's".toList ∧ entries "import 'x' // it's" = [⟨"x", false, false, false, true⟩] ∧
      ∃ l mark body, (l, .literal mark body) ∈ literals "import 'x' // it's".toList ∧ '\n' ∉ body ∧
        "x" = String.ofList body := by
  have hpieces : pieces "import 'x' // it's".toList =
      "import ".toList.map .other ++ [.literal '\'' ['x'], .other ' ', .comment "// it's".toList] := by decide +kernel
  have hentries : entries "import 'x' // it's" = [⟨"x", false, false, false, true⟩] := by decide +kernel
  have hquotes : QuotesPaired "import 'x' // it's".toList := by
    rw [quotesPaired_iff, hpieces]
    intro c hc
    simp at hc
    rcases hc with rfl | rfl | rfl | rfl | rfl | rfl | rfl | rfl <;> rfl
  obtain ⟨hfound, -⟩ := entries_recognised "import 'x' // it's" hquotes
  obtain ⟨⟨o, ho⟩, hall⟩ := hfound ⟨"x", false, false, false, true⟩ (hentries ▸ List.mem_cons_self)
  obtain ⟨-, -, hliteral⟩ := hall o ho
  obtain ⟨l, mark, body, hmem, -, -, hline, hbody⟩ := hliteral (by decide)
  exact ⟨hquotes, hentries, l, mark, body, hmem, hline, hbody⟩

end ModuleReach.Source
