import ModuleReach.Source.Entries

/-!
# Reading pieces back

Pieces that are written one after the other are read back as they were, if each of them ends where it has to end: a literal
without its mark and without a backslash in its body, a comment that is closed where its text ends, and a character that
opens nothing.  A comment up to the end of the line needs the line break after it.

So the forms are shown a source that is written as pieces piece by piece: blanks for a comment, blanks between the marks of a
literal, and any other character as it is.

## Main definitions

* `Source.Piece.Closed` — the pieces that end where they have to end, whatever follows.
* `Source.Readable` — the lists of pieces that are read back.
* `Source.plain`, `Source.hidden`, `Source.Piece.cells` — what the forms are shown of a text, of the body of a literal, and of a
  piece.

## Main results

* `Source.pieces_flatMap_text` — readable pieces are read back.
* `Source.cells_stripComments` — what the forms are shown of a source that is written as readable pieces.
-/

namespace ModuleReach.Source

/-! ### Bodies -/

/-- A character that neither closes a literal nor takes the next one with it is a part of the body. -/
theorem literalBody?_cons {mark c : Char} (hmark : c ≠ mark) (hslash : c ≠ '\\')
    (hline : c = '\n' → mark = backtick) (s : List Char) :
    literalBody? mark (c :: s) = (literalBody? mark s).map fun r => (c :: r.1, r.2) := by
  have hbreak : ¬ (c = '\n' ∧ mark ≠ backtick) := fun h => h.2 (hline h.1)
  -- The reader looks one character ahead, so the next one has to be named.
  cases s with
  | nil => simp [literalBody?, hmark]
  | cons d s => rw [literalBody?, if_neg hmark, if_neg hslash, if_neg hbreak]

/-- The body of a literal ends at the first mark. -/
theorem literalBody?_append {mark : Char} {body : List Char}
    (h : ∀ c ∈ body, c ≠ mark ∧ c ≠ '\\' ∧ (c = '\n' → mark = backtick)) (rest : List Char) :
    literalBody? mark (body ++ mark :: rest) = some (body, rest) := by
  induction body with
  | nil => cases rest <;> simp [literalBody?]
  | cons c body ih =>
    obtain ⟨hmark, hslash, hbreak⟩ := h c List.mem_cons_self
    have hbody := ih fun d hd => h d (List.mem_cons_of_mem _ hd)
    rw [List.cons_append, literalBody?_cons hmark hslash hbreak, hbody]
    rfl

/-- The body of a block comment ends at the first closing. -/
theorem blockBody?_append {body : List Char} (h : ¬ ['*', '/'] <:+: body) (rest : List Char) :
    blockBody? (body ++ '*' :: '/' :: rest) = some (body, rest) := by
  induction body with
  | nil => simp [blockBody?]
  | cons c body ih =>
    have hbody := ih fun hin => h (hin.trans (List.suffix_cons c body).isInfix)
    -- The next character may be the first of the closing, but then this one is no star.
    obtain ⟨d, tail, htail⟩ : ∃ d tail, body ++ '*' :: '/' :: rest = d :: tail := by
      cases body with
      | nil => exact ⟨_, _, rfl⟩
      | cons d body => exact ⟨_, _, rfl⟩
    have hopen : ¬ (c = '*' ∧ d = '/') := by
      rintro ⟨rfl, rfl⟩
      cases body with
      | nil =>
        obtain ⟨hd, -⟩ := List.cons.inj htail
        cases hd
      | cons e body =>
        obtain ⟨rfl, -⟩ := List.cons.inj htail
        exact h ⟨[], body, rfl⟩
    rw [List.cons_append, htail, blockBody?, if_neg hopen, ← htail, hbody]
    rfl

/-! ### Pieces that are read back -/

namespace Piece

/-- A piece that ends where it has to end, whatever follows. -/
def Closed : Piece → Prop
  | literal mark body =>
    isMark mark = true ∧ ∀ c ∈ body, c ≠ mark ∧ c ≠ '\\' ∧ (c = '\n' → mark = backtick)
  | comment text => ∃ body, ¬ ['*', '/'] <:+: body ∧ text = '/' :: '*' :: body ++ ['*', '/']
  | other c => isMark c = false ∧ c ≠ '/'

end Piece

/-- A closed piece is read first. -/
theorem pieces_text_append {p : Piece} (h : p.Closed) (rest : List Char) :
    pieces (p.text ++ rest) = p :: pieces rest := by
  have hpieces : ∀ c tail, p.text ++ rest = c :: tail → firstPiece c tail = (p, rest) →
      pieces (p.text ++ rest) = p :: pieces rest := by
    intro c tail htext hfirst
    rw [htext, pieces, hfirst]
  cases p with
  | literal mark body =>
    obtain ⟨hmark, hbody⟩ := h
    refine hpieces mark (body ++ mark :: rest) (by simp [Piece.text]) ?_
    unfold firstPiece
    rw [if_pos hmark, literalBody?_append hbody]
  | comment text =>
    obtain ⟨body, hbody, rfl⟩ := h
    refine hpieces '/' ('*' :: (body ++ '*' :: '/' :: rest)) (by simp [Piece.text]) ?_
    simp only [firstPiece, isMark, backtick]
    rw [blockBody?_append hbody]
    rfl
  | other c =>
    obtain ⟨hmark, hslash⟩ := h
    refine hpieces c rest rfl ?_
    unfold firstPiece
    rw [hmark, if_neg Bool.false_ne_true, if_neg hslash]

/-- A comment up to the end of the line is read first. -/
theorem pieces_line {text rest : List Char} (htext : '\n' ∉ text) (hrest : ∀ c ∈ rest.head?, c = '\n') :
    pieces ('/' :: '/' :: (text ++ rest)) = .comment ('/' :: '/' :: text) :: pieces rest := by
  have hall : ∀ c ∈ text, (c != '\n') = true := by
    intro c hc
    rw [bne_iff_ne]
    rintro rfl
    exact htext hc
  have hends : rest.takeWhile (· != '\n') = [] ∧ rest.dropWhile (· != '\n') = rest := by
    cases rest with
    | nil => exact ⟨rfl, rfl⟩
    | cons c rest =>
      obtain rfl := hrest c rfl
      exact ⟨rfl, rfl⟩
  have htake : (text ++ rest).takeWhile (· != '\n') = text := by
    rw [List.takeWhile_append_of_pos hall, hends.1, List.append_nil]
  have hdrop : (text ++ rest).dropWhile (· != '\n') = rest := by
    rw [List.dropWhile_append_of_pos hall, hends.2]
  have hfirst : firstPiece '/' ('/' :: (text ++ rest)) = (.comment ('/' :: '/' :: text), rest) := by
    simp only [firstPiece, isMark, backtick]
    rw [htake, hdrop]
    rfl
  rw [pieces, hfirst]

/-- After a comment up to the end of the line the line break is read. -/
theorem pieces_lineComment {text : List Char} (h : '\n' ∉ text) (rest : List Char) :
    pieces ('/' :: '/' :: text ++ '\n' :: rest) =
      .comment ('/' :: '/' :: text) :: .other '\n' :: pieces rest := by
  have hline : ∀ c ∈ ('\n' :: rest).head?, c = '\n' := by
    rintro c ⟨⟩
    rfl
  have hbreak : (Piece.other '\n').Closed := ⟨by decide, by decide⟩
  exact (pieces_line h hline).trans (congrArg _ (pieces_text_append hbreak rest))

/-- The lists of pieces that are read back as they were written. -/
inductive Readable : List Piece → Prop
  | nil : Readable []
  | cons {p : Piece} {ps : List Piece} : p.Closed → Readable ps → Readable (p :: ps)
  | line {text : List Char} {ps : List Piece} : '\n' ∉ text → Readable ps →
      Readable (.comment ('/' :: '/' :: text) :: .other '\n' :: ps)

theorem Readable.append {ps qs : List Piece} (hp : Readable ps) (hq : Readable qs) :
    Readable (ps ++ qs) := by
  induction hp with
  | nil => exact hq
  | cons hp _ ih => exact .cons hp ih
  | line h _ ih => exact .line h ih

theorem Readable.flatMap {α : Type} {f : α → List Piece} (h : ∀ a, Readable (f a)) (as : List α) :
    Readable (as.flatMap f) := by
  induction as with
  | nil => exact .nil
  | cons a as ih =>
    rw [List.flatMap_cons]
    exact (h a).append ih

theorem readable_of_closed {ps : List Piece} (h : ∀ p ∈ ps, p.Closed) : Readable ps := by
  induction ps with
  | nil => exact .nil
  | cons p ps ih => exact .cons (h p List.mem_cons_self) (ih fun q hq => h q (List.mem_cons_of_mem _ hq))

/-- Readable pieces are read back. -/
theorem pieces_flatMap_text {ps : List Piece} (h : Readable ps) :
    pieces (ps.flatMap Piece.text) = ps := by
  induction h with
  | nil =>
    rw [List.flatMap_nil, pieces]
  | cons hp _ ih => rw [List.flatMap_cons, pieces_text_append hp, ih]
  | @line text ps htext _ ih =>
    have hjoin : (Piece.comment ('/' :: '/' :: text) :: .other '\n' :: ps).flatMap Piece.text =
        '/' :: '/' :: text ++ '\n' :: ps.flatMap Piece.text := by simp [Piece.text]
    rw [hjoin, pieces_lineComment htext, ih]

/-! ### What the forms are shown -/

/-- Characters that are shown as they are. -/
def plain (s : List Char) : List Cell := s.map fun c => ⟨c, c⟩

/-- Characters that are hidden. -/
def hidden (s : List Char) : List Cell := s.map fun c => ⟨if c = '\n' then c else ' ', c⟩

@[simp] theorem plain_nil : plain [] = [] := rfl

@[simp] theorem plain_cons (c : Char) (s : List Char) : plain (c :: s) = ⟨c, c⟩ :: plain s := rfl

@[simp] theorem plain_append (s t : List Char) : plain (s ++ t) = plain s ++ plain t :=
  List.map_append

@[simp] theorem map_actual_hidden (s : List Char) : (hidden s).map Cell.actual = s := by
  simp [hidden, Function.comp_def]

/-- What the forms are shown of a piece. -/
def Piece.cells : Piece → List Cell
  | literal mark body => ⟨mark, mark⟩ :: hidden body ++ [⟨mark, mark⟩]
  | comment text => plain (blanked text)
  | other c => [⟨c, c⟩]

/-- The pieces that stand for a piece once comments are blanked. -/
def Piece.uncommented : Piece → List Piece
  | comment text => (blanked text).map other
  | p => [p]

/-- A blank or a line break is a piece of its own. -/
theorem closed_of_mem_blanked {s : List Char} {c : Char} (h : c ∈ blanked s) :
    (Piece.other c).Closed := by
  obtain ⟨d, -, rfl⟩ := List.mem_map.1 h
  split
  · subst_vars
    exact ⟨by decide, by decide⟩
  · exact ⟨by decide, by decide⟩

/-- What is read of single characters one by one is the characters. -/
theorem flatMap_map_other {f : Piece → List Char} (hf : ∀ c, f (.other c) = [c]) (s : List Char) :
    (s.map Piece.other).flatMap f = s := by
  induction s with
  | nil => rfl
  | cons c s ih => rw [List.map_cons, List.flatMap_cons, ih, hf, List.singleton_append]

theorem Piece.text_uncommented (p : Piece) : p.uncommented.flatMap Piece.text = p.stripped := by
  cases p with
  | literal mark body => simp [uncommented, stripped]
  | comment text => exact flatMap_map_other (fun _ => rfl) _
  | other c => rfl

/-- Blanking the comments of readable pieces leaves closed ones. -/
theorem Readable.closed_uncommented {ps : List Piece} (h : Readable ps) :
    ∀ p ∈ ps.flatMap Piece.uncommented, p.Closed := by
  have hcomment : ∀ text, ∀ p ∈ (Piece.comment text).uncommented, p.Closed := by
    intro text p hp
    obtain ⟨c, hc, rfl⟩ := List.mem_map.1 hp
    exact closed_of_mem_blanked hc
  have hpiece : ∀ {p : Piece}, p.Closed → ∀ q ∈ p.uncommented, q.Closed := by
    intro p hp q hq
    cases p with
    | literal mark body => exact List.mem_singleton.1 hq ▸ hp
    | comment text => exact hcomment text q hq
    | other c => exact List.mem_singleton.1 hq ▸ hp
  induction h with
  | nil => simp
  | cons hp _ ih =>
    intro q hq
    rw [List.flatMap_cons, List.mem_append] at hq
    rcases hq with hq | hq
    · exact hpiece hp q hq
    · exact ih q hq
  | @line text ps _ _ ih =>
    intro q hq
    rw [List.flatMap_cons, List.flatMap_cons, List.mem_append, List.mem_append] at hq
    rcases hq with hq | hq | hq
    · exact hcomment _ q hq
    · exact List.mem_singleton.1 hq ▸ ⟨by decide, by decide⟩
    · exact ih q hq

/-- A text over itself is shown as it is. -/
theorem zipWith_mk_self (s : List Char) : List.zipWith Cell.mk s s = plain s := by
  induction s with
  | nil => rfl
  | cons c s ih => rw [List.zipWith_cons_cons, ih, plain_cons]

/-- Blanks over a text hide it. -/
theorem zipWith_mk_blanked (s : List Char) : List.zipWith Cell.mk (blanked s) s = hidden s := by
  induction s with
  | nil => rfl
  | cons c s ih =>
    rw [blanked, List.map_cons, ← blanked, List.zipWith_cons_cons, ih]
    rfl

/-- What masking leaves of a piece without comments, over its text, is what the forms are shown of the piece. -/
theorem Piece.zipWith_masked (p : Piece) :
    List.zipWith Cell.mk (p.uncommented.flatMap masked) (p.uncommented.flatMap text) = p.cells := by
  cases p with
  | literal mark body =>
    have hlength : (blanked body).length = body.length := length_blanked body
    simp [uncommented, masked, text, cells, List.zipWith_append hlength, zipWith_mk_blanked]
  | comment body =>
    rw [uncommented, flatMap_map_other fun _ => rfl, flatMap_map_other fun _ => rfl, zipWith_mk_self]
    rfl
  | other c => rfl

/-- The same for a list of pieces: masking keeps the length of each. -/
theorem zipWith_masked_flatMap (ps : List Piece) :
    List.zipWith Cell.mk ((ps.flatMap Piece.uncommented).flatMap Piece.masked)
      ((ps.flatMap Piece.uncommented).flatMap Piece.text) = ps.flatMap Piece.cells := by
  induction ps with
  | nil => rfl
  | cons p ps ih =>
    have hlength : (p.uncommented.flatMap Piece.masked).length =
        (p.uncommented.flatMap Piece.text).length := by
      simp [List.length_flatMap]
    rw [List.flatMap_cons, List.flatMap_append, List.flatMap_append, List.zipWith_append hlength,
      p.zipWith_masked, ih, List.flatMap_cons]

/-- The forms are shown a source that is written as readable pieces piece by piece. -/
theorem cells_stripComments {ps : List Piece} (h : Readable ps) :
    cells (stripComments (ps.flatMap Piece.text)) = ps.flatMap Piece.cells := by
  have hstrip : stripComments (ps.flatMap Piece.text) =
      (ps.flatMap Piece.uncommented).flatMap Piece.text := by
    rw [stripComments, pieces_flatMap_text h, List.flatMap_assoc]
    congr 1
    funext p
    exact p.text_uncommented.symm
  have hpieces : pieces ((ps.flatMap Piece.uncommented).flatMap Piece.text) =
      ps.flatMap Piece.uncommented :=
    pieces_flatMap_text (readable_of_closed h.closed_uncommented)
  rw [hstrip, cells, maskLiterals, hpieces]
  exact zipWith_masked_flatMap ps

end ModuleReach.Source
