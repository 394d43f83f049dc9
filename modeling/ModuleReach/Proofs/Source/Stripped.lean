import Mathlib.Data.List.Forall2
import Mathlib.Data.List.TakeWhile
import Mathlib.Tactic.SplitIfs
import ModuleReach.Proofs.Source.Pieces

/-!
# What is left when comments are stripped

Blanks for comments do not change what else is read.  A literal stays closed, since its end does not depend on
what follows, and none becomes closed: a quote that opens nothing looks for its end through the comments behind
it, and blanks there offer no end, take no backslash away from a mark outside, and keep each line break.  So a
second scan finds the literals of the first one at their places, and no comment.

## Main definitions

* `Source.Cut` — how a source is cut into pieces, by the piece at its front.
* `Source.BlankedTo` — what may be left of a character.
* `Source.closes` — whether a mark outside of a literal would be closed, with a backslash before the text or
  not.
* `Source.literals` — the literals of a source with their offsets.

## Main results

* `Source.cut_pieces`, `Source.Cut.pieces_eq` — a source is cut into its pieces, and in no other way.
* `Source.Cut.closes_of_stripped` — no mark is closed because comments are blanked.
* `Source.pieces_stripComments` — the pieces of a source without comments.
* `Source.scan_stripComments` — what a second scan finds.
-/

namespace ModuleReach.Source

/-! ### Cutting a source -/

/-- How a source is cut into pieces. -/
inductive Cut : List Char → List Piece → Prop
  | nil : Cut [] []
  /-- A mark that is closed opens a literal. -/
  | literal {mark : Char} {s body rest : List Char} {ps : List Piece} : isMark mark = true →
      literalBody? mark s = some (body, rest) → Cut rest ps → Cut (mark :: s) (.literal mark body :: ps)
  /-- A mark that is never closed opens nothing. -/
  | unclosed {mark : Char} {s : List Char} {ps : List Piece} : isMark mark = true →
      literalBody? mark s = none → Cut s ps → Cut (mark :: s) (.other mark :: ps)
  /-- Two slashes open a comment up to the end of the line. -/
  | line {text rest : List Char} {ps : List Piece} : '\n' ∉ text → (∀ c ∈ rest.head?, c = '\n') →
      Cut rest ps → Cut ('/' :: '/' :: (text ++ rest)) (.comment ('/' :: '/' :: text) :: ps)
  /-- A slash and a star open a comment that is closed. -/
  | block {s body rest : List Char} {ps : List Piece} : blockBody? s = some (body, rest) →
      Cut rest ps → Cut ('/' :: '*' :: s) (.comment ('/' :: '*' :: body ++ ['*', '/']) :: ps)
  /-- Any other slash opens nothing. -/
  | slash {s : List Char} {ps : List Piece} : (∀ t, s ≠ '/' :: t) →
      (∀ t, s = '*' :: t → blockBody? t = none) → Cut s ps → Cut ('/' :: s) (.other '/' :: ps)
  | other {c : Char} {s : List Char} {ps : List Piece} : isMark c = false → c ≠ '/' → Cut s ps →
      Cut (c :: s) (.other c :: ps)

/-- The piece at the front is cut off first. -/
theorem cut_firstPiece (c : Char) (rest : List Char) {ps : List Piece} :
    Cut (firstPiece c rest).2 ps → Cut (c :: rest) ((firstPiece c rest).1 :: ps) := by
  fun_cases firstPiece c rest with
  | case1 _ hmark body tail hbody => exact .literal hmark hbody
  | case2 _ hmark hbody => exact .unclosed hmark hbody
  | case3 _ hslash text =>
    subst hslash
    intro hrest
    -- The comment is cut off up to the first line break, so what is left begins with it.
    have hline : '\n' ∉ text.takeWhile (· != '\n') := by
      intro h
      have hne := List.mem_takeWhile_imp h
      simp at hne
    have hend : ∀ c ∈ (text.dropWhile (· != '\n')).head?, c = '\n' := by
      intro c hc
      have hstop := List.head?_dropWhile_not (· != '\n') text
      rw [Option.mem_def.1 hc] at hstop
      simpa using hstop
    have hcut := Cut.line hline hend hrest
    rw [List.takeWhile_append_dropWhile] at hcut
    exact hcut
  | case4 _ hslash text body tail hbody =>
    subst hslash
    exact .block hbody
  | case5 _ hslash text hbody =>
    subst hslash
    refine .slash (fun t h => ?_) (fun t h => ?_)
    · cases h
    · cases h
      exact hbody
  | case6 _ hslash _ hline hblock =>
    subst hslash
    exact .slash hline fun t h => absurd h (hblock t)
  | case7 _ hmark hslash => exact .other (eq_false_of_ne_true hmark) hslash

/-- A source is cut into its pieces. -/
theorem cut_pieces (s : List Char) : Cut s (pieces s) := by
  fun_induction pieces s with
  | case1 => exact .nil
  | case2 c rest ih => exact cut_firstPiece c rest ih

/-- A source is cut in one way. -/
theorem Cut.pieces_eq {s : List Char} {ps : List Piece} (h : Cut s ps) : pieces s = ps := by
  induction h with
  | nil => rw [pieces]
  | literal hmark hbody _ ih => simp [pieces, firstPiece, hmark, hbody, ih]
  | unclosed hmark hbody _ ih => simp [pieces, firstPiece, hmark, hbody, ih]
  | line htext hrest _ ih => rw [pieces_line htext hrest, ih]
  | block hbody _ ih => simp [pieces, firstPiece, isMark, backtick, hbody, ih]
  | @slash s ps hline hblock _ ih =>
    have hfirst : firstPiece '/' s = (.other '/', s) := by
      unfold firstPiece
      rw [if_neg (by decide), if_pos rfl]
      split
      · exact absurd rfl (hline _)
      · rw [hblock _ rfl]
      · rfl
    rw [pieces, hfirst, ih]
  | other hmark hslash _ ih => simp [pieces, firstPiece, hmark, hslash, ih]

/-! ### Blanks -/

/-- What may be left of a character: itself, or a blank if it is no line break. -/
def BlankedTo (c d : Char) : Prop := d = c ∨ c ≠ '\n' ∧ d = ' '

theorem BlankedTo.refl (c : Char) : BlankedTo c c := .inl rfl

/-- Where no blank is left, nothing was blanked. -/
theorem BlankedTo.eq {c d : Char} (h : BlankedTo c d) (hd : d ≠ ' ') : c = d := by
  rcases h with h | ⟨-, h⟩
  · exact h.symm
  · exact absurd h hd

theorem forall₂_blankedTo_refl (s : List Char) : List.Forall₂ BlankedTo s s :=
  List.forall₂_same.2 fun c _ => .refl c

theorem forall₂_blanked (s : List Char) : List.Forall₂ BlankedTo s (blanked s) := by
  rw [blanked, List.forall₂_map_right_iff]
  refine List.forall₂_same.2 fun c _ => ?_
  split
  · exact .refl c
  · rename_i h
    exact .inr ⟨h, rfl⟩

/-- What is left of pieces is what is left of each. -/
theorem forall₂_flatMap {f g : Piece → List Char} (h : ∀ p, List.Forall₂ BlankedTo (f p) (g p))
    (ps : List Piece) : List.Forall₂ BlankedTo (ps.flatMap f) (ps.flatMap g) := by
  induction ps with
  | nil => exact .nil
  | cons p ps ih => exact List.rel_append (h p) ih

theorem forall₂_stripComments (s : List Char) : List.Forall₂ BlankedTo s (stripComments s) := by
  have hpiece : ∀ p : Piece, List.Forall₂ BlankedTo p.text p.stripped := by
    intro p
    cases p with
    | literal mark body => exact forall₂_blankedTo_refl _
    | comment text => exact forall₂_blanked text
    | other c => exact forall₂_blankedTo_refl _
  have h := forall₂_flatMap hpiece (pieces s)
  rw [text_pieces] at h
  exact h

theorem forall₂_maskLiterals (s : List Char) : List.Forall₂ BlankedTo s (maskLiterals s) := by
  have hpiece : ∀ p : Piece, List.Forall₂ BlankedTo p.text p.masked := by
    intro p
    cases p with
    | literal mark body =>
      exact .cons (.refl mark) (List.rel_append (forall₂_blanked body) (forall₂_blankedTo_refl _))
    | comment text => exact forall₂_blankedTo_refl _
    | other c => exact forall₂_blankedTo_refl _
  have h := forall₂_flatMap hpiece (pieces s)
  rw [text_pieces] at h
  exact h

/-- Blanks keep the line breaks where they are. -/
theorem getElem?_eq_newline_iff {s t : List Char} (h : List.Forall₂ BlankedTo s t) (i : ℕ) :
    t[i]? = some '\n' ↔ s[i]? = some '\n' := by
  induction h generalizing i with
  | nil => rfl
  | @cons c d s t hcd _ ih =>
    cases i with
    | zero =>
      rw [List.getElem?_cons_zero, List.getElem?_cons_zero, Option.some.injEq, Option.some.injEq]
      constructor
      · rintro rfl
        exact hcd.eq (by decide)
      · rintro rfl
        rcases hcd with h | ⟨h, -⟩
        · exact h
        · exact absurd rfl h
    | succ i => exact ih i

/-- A comment that is never closed is not closed by blanks. -/
theorem blockBody?_eq_none {s t : List Char} (h : List.Forall₂ BlankedTo s t) (hs : blockBody? s = none) :
    blockBody? t = none := by
  induction h with
  | nil => rfl
  | @cons c d s t hcd hst ih =>
    cases hst with
    | nil => rfl
    | @cons c' d' s t hcd' hst =>
      rw [blockBody?] at hs ⊢
      split at hs
      · cases hs
      · rename_i hopen
        rw [if_neg, ih (Option.map_eq_none_iff.1 hs), Option.map_none]
        rintro ⟨rfl, rfl⟩
        exact hopen ⟨hcd.eq (by decide), hcd'.eq (by decide)⟩

/-! ### Marks that are never closed -/

/-- What follows a literal does not matter for its body. -/
theorem literalBody?_cut {mark : Char} {s body rest : List Char} (h : literalBody? mark s = some (body, rest))
    (t : List Char) : literalBody? mark (body ++ mark :: t) = some (body, t) := by
  have hnil : literalBody? mark (mark :: t) = some ([], t) := by
    cases t <;> simp [literalBody?]
  fun_induction literalBody? mark s generalizing body with
  | case1 | case3 | case6 => cases h
  | case2 | case4 =>
    cases h
    exact hnil
  | case5 d s hmark ih =>
    obtain ⟨r, hr, heq⟩ := Option.map_eq_some_iff.1 h
    cases heq
    rw [List.cons_append, List.cons_append, literalBody?, if_neg hmark, if_pos rfl, ih hr]
    rfl
  | case7 c d s hmark hslash hline ih =>
    obtain ⟨r, hr, heq⟩ := Option.map_eq_some_iff.1 h
    cases heq
    rw [List.cons_append, literalBody?_cons hmark hslash (fun hc => not_not.1 fun hne => hline ⟨hc, hne⟩), ih hr]
    rfl

/-- Whether the mark of a literal is closed in a text, where a backslash may stand before the text. -/
def closes (mark : Char) : (escaped : Bool) → List Char → Bool
  | _, [] => false
  | true, _ :: s => closes mark false s
  | false, c :: s =>
    if c = mark then true
    else if c = '\\' then closes mark true s
    else if c = '\n' ∧ mark ≠ backtick then false
    else closes mark false s

/-- A literal has a body if its mark is closed. -/
theorem isSome_literalBody? (mark : Char) (s : List Char) :
    (literalBody? mark s).isSome = closes mark false s := by
  fun_induction literalBody? mark s with
  | case1 => rfl
  | case2 => simp [closes]
  | case3 c hmark => simp [closes, hmark]
  | case4 => simp [closes]
  | case5 d s hmark ih =>
    rw [Option.isSome_map, ih, closes, if_neg hmark, if_pos rfl, closes]
  | case6 c d s hmark hslash hline => rw [closes, if_neg hmark, if_neg hslash, if_pos hline, Option.isSome_none]
  | case7 c d s hmark hslash hline ih =>
    have hstep : closes mark false (c :: d :: s) = closes mark false (d :: s) := by
      rw [closes, if_neg hmark, if_neg hslash, if_neg hline]
    rw [Option.isSome_map, ih, hstep]

section Closes

variable {mark : Char} {s t : List Char} {escaped : Bool}

/-- A mark that is closed in any case behind a text without line breaks is closed with the text, too. -/
theorem closes_append {x : List Char} (hx : ∀ c ∈ x, c = '\n' → mark = backtick)
    (hs : ∀ escaped, closes mark escaped s = true) : closes mark escaped (x ++ s) = true := by
  induction x generalizing escaped with
  | nil => exact hs escaped
  | cons c x ih =>
    have hrest : ∀ {escaped}, closes mark escaped (x ++ s) = true :=
      ih fun d hd => hx d (List.mem_cons_of_mem _ hd)
    have hline : ¬ (c = '\n' ∧ mark ≠ backtick) := fun h => h.2 (hx c List.mem_cons_self h.1)
    cases escaped with
    | true => exact hrest
    | false =>
      rw [List.cons_append, closes, if_neg hline]
      split_ifs
      · rfl
      · exact hrest
      · exact hrest

/-- What comes before does not matter if a mark is closed in what follows whenever it is closed in something else. -/
theorem closes_append_mono (x : List Char)
    (hst : ∀ escaped, closes mark escaped t = true → closes mark escaped s = true)
    (h : closes mark escaped (x ++ t) = true) : closes mark escaped (x ++ s) = true := by
  induction x generalizing escaped with
  | nil => exact hst escaped h
  | cons c x ih =>
    cases escaped with
    | true => exact ih h
    | false =>
      rw [List.cons_append, closes] at h ⊢
      split_ifs at h ⊢
      · rfl
      · exact ih h
      · exact ih h

/-- Behind blanks a mark is closed if these may stand in a literal, and if it is closed in what follows. -/
theorem closes_blanked_append (hmark : isMark mark = true) {x : List Char}
    (h : closes mark false (blanked x ++ s) = true) :
    (∀ c ∈ x, c = '\n' → mark = backtick) ∧ closes mark false s = true := by
  have hblank : ' ' ≠ mark := by
    rintro rfl
    exact absurd hmark (by decide)
  have hbreak : '\n' ≠ mark := by
    rintro rfl
    exact absurd hmark (by decide)
  induction x with
  | nil => exact ⟨by simp, h⟩
  | cons c x ih =>
    rw [blanked, List.map_cons, ← blanked, List.cons_append] at h
    by_cases hc : c = '\n'
    · rw [if_pos hc, hc, closes, if_neg hbreak, if_neg (by decide)] at h
      split at h
      · cases h
      · rename_i hline
        obtain ⟨hx, hs⟩ := ih h
        refine ⟨?_, hs⟩
        rw [List.forall_mem_cons]
        exact ⟨fun _ => not_not.1 fun hne => hline ⟨rfl, hne⟩, hx⟩
    · rw [if_neg hc, closes, if_neg hblank, if_neg (by decide), if_neg (by simp)] at h
      obtain ⟨hx, hs⟩ := ih h
      refine ⟨?_, hs⟩
      rw [List.forall_mem_cons]
      exact ⟨fun h => absurd h hc, hx⟩

/-- At a line break a backslash before it only helps. -/
theorem closes_newline (h : closes mark false ('\n' :: s) = true) (hmark : isMark mark = true) (escaped : Bool) :
    closes mark escaped ('\n' :: s) = true := by
  cases escaped with
  | false => exact h
  | true =>
    have hbreak : '\n' ≠ mark := by
      rintro rfl
      exact absurd hmark (by decide)
    rw [closes, if_neg hbreak, if_neg (by decide)] at h
    split at h
    · cases h
    · exact h

/-- Behind the blanks for a comment the same holds, even after a backslash, which takes the first of them. -/
theorem closes_comment (hmark : isMark mark = true) {x : List Char}
    (h : closes mark escaped (blanked ('/' :: x) ++ s) = true) :
    (∀ c ∈ '/' :: x, c = '\n' → mark = backtick) ∧ closes mark false s = true := by
  have hblank : ' ' ≠ mark := by
    rintro rfl
    exact absurd hmark (by decide)
  have hx : closes mark false (blanked x ++ s) = true := by
    rw [blanked, List.map_cons, ← blanked, List.cons_append, if_neg (by decide)] at h
    cases escaped with
    | true => exact h
    | false =>
      rw [closes, if_neg hblank, if_neg (by decide), if_neg (by simp)] at h
      exact h
  obtain ⟨hlines, hs⟩ := closes_blanked_append hmark hx
  rw [List.forall_mem_cons]
  exact ⟨⟨fun h => absurd h (by decide), hlines⟩, hs⟩

/-- The closing of a comment takes up a backslash before it. -/
theorem closes_closing (h : closes mark false s = true) : closes mark escaped ('*' :: '/' :: s) = true := by
  have hslash : closes mark false ('/' :: s) = true := by
    rw [closes]
    split_ifs with hmark hslash hline
    · rfl
    · exact absurd hslash (by decide)
    · exact absurd hline.1 (by decide)
    · exact h
  cases escaped with
  | true => exact hslash
  | false =>
    rw [closes]
    split_ifs with hmark hslash' hline
    · rfl
    · exact absurd hslash' (by decide)
    · exact absurd hline.1 (by decide)
    · exact hslash

/-- No mark is closed because comments are blanked. -/
theorem Cut.closes_of_stripped {ps : List Piece} (hmark : isMark mark = true) (hcut : Cut s ps)
    (h : closes mark escaped (ps.flatMap Piece.stripped) = true) : closes mark escaped s = true := by
  induction hcut generalizing escaped with
  | nil => exact h
  | @literal m s body rest ps _ hbody _ ih =>
    -- A literal stays as it is, so it leads both texts to the same state.
    rw [literalBody?_eq_some hbody]
    have hsame := closes_append_mono (m :: body ++ [m]) (fun _ => ih) h
    rw [List.append_assoc] at hsame
    exact hsame
  | @unclosed m s ps _ _ _ ih => exact closes_append_mono [m] (fun _ => ih) h
  | @line text rest ps _ hrest _ ih =>
    obtain ⟨hlines, hclosed⟩ := closes_comment hmark h
    have hafter := ih hclosed
    cases rest with
    | nil => cases hafter
    | cons c rest =>
      -- Without the blanks a backslash at the end of the comment may stand before the line break.
      obtain rfl := hrest c rfl
      exact closes_append hlines (closes_newline hafter hmark)
  | @block s body rest ps hbody _ ih =>
    obtain ⟨hlines, hclosed⟩ := closes_comment hmark h
    rw [blockBody?_eq_some hbody]
    -- The mark may stand in the comment itself, or a backslash at its end; the star takes that up.
    refine closes_append (x := '/' :: '*' :: body) ?_ (fun _ => closes_closing (ih hclosed))
    intro c hc
    exact hlines c (List.mem_append_left _ hc)
  | @slash s ps _ _ _ ih => exact closes_append_mono ['/'] (fun _ => ih) h
  | @other c s ps _ _ _ ih => exact closes_append_mono [c] (fun _ => ih) h

end Closes

/-! ### A second scan -/

/-- Characters that open nothing are cut off one by one. -/
theorem Cut.append_others {x : List Char} (hx : ∀ c ∈ x, (Piece.other c).Closed) {s : List Char} {ps : List Piece}
    (h : Cut s ps) : Cut (x ++ s) (x.map .other ++ ps) := by
  induction x with
  | nil => exact h
  | cons c x ih =>
    obtain ⟨hmark, hslash⟩ := hx c List.mem_cons_self
    exact .other hmark hslash (ih fun d hd => hx d (List.mem_cons_of_mem _ hd))

/-- What is left of a cut source is cut at the same places, with the blanks cut off one by one. -/
theorem Cut.stripped {s : List Char} {ps : List Piece} (h : Cut s ps) :
    Cut (ps.flatMap Piece.stripped) (ps.flatMap Piece.uncommented) := by
  induction h with
  | nil => exact .nil
  | @literal mark s body rest ps hmark hbody _ ih =>
    have hcut := literalBody?_cut hbody (ps.flatMap Piece.stripped)
    have hpiece := Cut.literal hmark hcut ih
    have htext : (Piece.literal mark body).stripped = mark :: body ++ [mark] := rfl
    rw [List.flatMap_cons, htext, List.append_assoc]
    exact hpiece
  | @unclosed mark s ps hmark hbody hcut ih =>
    refine .unclosed hmark ?_ ih
    -- Blanks close no mark, so this one opens nothing in what is left, either.
    rw [← Option.not_isSome_iff_eq_none, isSome_literalBody?] at hbody ⊢
    exact fun h => hbody (hcut.closes_of_stripped hmark h)
  | line _ _ _ ih => exact ih.append_others fun c hc => closed_of_mem_blanked hc
  | block _ _ ih => exact ih.append_others fun c hc => closed_of_mem_blanked hc
  | @slash s ps hline hblock hcut ih =>
    have hblanked : List.Forall₂ BlankedTo s (ps.flatMap Piece.stripped) := by
      have h := forall₂_stripComments s
      rw [stripComments, hcut.pieces_eq] at h
      exact h
    refine Cut.slash (s := ps.flatMap Piece.stripped) ?_ ?_ ih
    -- A slash or a star behind the slash was there before, since what is blanked becomes neither.
    · intro t ht
      rw [ht] at hblanked
      cases hblanked with
      | @cons c _ s _ hc _ => exact hline s (by rw [hc.eq (by decide)])
    · intro t ht
      rw [ht] at hblanked
      cases hblanked with
      | @cons c _ s _ hc hst =>
        rw [hc.eq (by decide)] at hblock
        exact blockBody?_eq_none hst (hblock s rfl)
  | other hmark hslash _ ih => exact .other hmark hslash ih

/-- A second scan reads blanks for the comments, and anything else as before. -/
theorem pieces_stripComments (s : List Char) : pieces (stripComments s) = (pieces s).flatMap Piece.uncommented :=
  (cut_pieces s).stripped.pieces_eq

/-! ### What a second scan finds -/

namespace Piece

/-- Whether a piece is a literal. -/
def isLiteral : Piece → Bool
  | literal _ _ => true
  | _ => false

/-- Whether a piece is a comment. -/
def isComment : Piece → Bool
  | comment _ => true
  | _ => false

/-- A piece with blanks for what is a comment or the body of a literal. -/
def faded : Piece → List Char
  | literal mark body => mark :: blanked body ++ [mark]
  | comment text => blanked text
  | other c => [c]

end Piece

/-- Pieces with their offsets; the first one is at `offset`. -/
def placed : (offset : ℕ) → List Piece → List (ℕ × Piece)
  | _, [] => []
  | offset, p :: ps => (offset, p) :: placed (offset + p.text.length) ps

/-- The literals of a source with their offsets. -/
def literals (s : List Char) : List (ℕ × Piece) := (placed 0 (pieces s)).filter (·.2.isLiteral)

theorem placed_append (offset : ℕ) (ps qs : List Piece) :
    placed offset (ps ++ qs) = placed offset ps ++ placed (offset + (ps.flatMap Piece.text).length) qs := by
  induction ps generalizing offset with
  | nil => rfl
  | cons p ps ih =>
    rw [List.cons_append, placed, placed, ih, List.flatMap_cons, List.length_append, Nat.add_assoc, List.cons_append]

/-- The pieces that stand for a piece hold its literal, if it is one. -/
theorem Piece.filter_placed_uncommented (p : Piece) (offset : ℕ) :
    (placed offset p.uncommented).filter (·.2.isLiteral) = (placed offset [p]).filter (·.2.isLiteral) := by
  have hothers : ∀ (s : List Char) (offset : ℕ),
      (placed offset (s.map Piece.other)).filter (·.2.isLiteral) = [] := by
    intro s
    induction s with
    | nil => exact fun _ => rfl
    | cons c s ih => exact fun offset => ih (offset + 1)
  cases p with
  | literal mark body => rfl
  | comment text => exact hothers (blanked text) offset
  | other c => rfl

/-- Blanks for comments move no literal. -/
theorem filter_placed_uncommented (offset : ℕ) (ps : List Piece) :
    (placed offset (ps.flatMap Piece.uncommented)).filter (·.2.isLiteral) =
      (placed offset ps).filter (·.2.isLiteral) := by
  induction ps generalizing offset with
  | nil => rfl
  | cons p ps ih =>
    have hlength : (p.uncommented.flatMap Piece.text).length = p.text.length := by
      rw [p.text_uncommented, length_stripped]
    have hsplit : placed offset (p :: ps) = placed offset [p] ++ placed (offset + p.text.length) ps := rfl
    rw [List.flatMap_cons, placed_append, List.filter_append, p.filter_placed_uncommented, hlength, ih, hsplit,
      List.filter_append]

/-- A second scan finds no comment. -/
theorem isComment_of_mem_uncommented {ps : List Piece} {p : Piece} (h : p ∈ ps.flatMap Piece.uncommented) :
    p.isComment = false := by
  obtain ⟨q, -, hq⟩ := List.mem_flatMap.1 h
  cases q with
  | literal mark body =>
    obtain rfl := List.mem_singleton.1 hq
    rfl
  | comment text =>
    obtain ⟨c, -, rfl⟩ := List.mem_map.1 hq
    rfl
  | other c =>
    obtain rfl := List.mem_singleton.1 hq
    rfl

/-- What is read of a source without comments is what is read of the pieces that stand for those of the source. -/
theorem flatMap_pieces_stripComments {f g : Piece → List Char} (hfg : ∀ p, p.uncommented.flatMap f = g p)
    (s : List Char) : (pieces (stripComments s)).flatMap f = (pieces s).flatMap g := by
  rw [pieces_stripComments, List.flatMap_assoc]
  exact congrArg (List.flatMap · (pieces s)) (funext hfg)

/-- Nothing is left to strip. -/
theorem stripComments_stripComments (s : List Char) : stripComments (stripComments s) = stripComments s := by
  refine flatMap_pieces_stripComments (fun p => ?_) s
  cases p with
  | literal mark body => exact List.append_nil _
  | comment text => exact flatMap_map_other (fun _ => rfl) _
  | other c => rfl

/-- Literals are masked behind the comments as one scan does both. -/
theorem maskLiterals_stripComments (s : List Char) :
    maskLiterals (stripComments s) = (pieces s).flatMap Piece.faded := by
  refine flatMap_pieces_stripComments (fun p => ?_) s
  cases p with
  | literal mark body => exact List.append_nil _
  | comment text => exact flatMap_map_other (fun _ => rfl) _
  | other c => rfl

/-- **Comments hide nothing else.**  A scan of a source without its comments finds the literals of the source at their
offsets, and no comment.  So there is nothing left to strip, the entries are the same, and what the forms are shown is
as long as the source, has its line breaks, and is what one scan leaves that blanks comments and the bodies of
literals. -/
theorem scan_stripComments (s : List Char) :
    literals (stripComments s) = literals s ∧
    (∀ p ∈ pieces (stripComments s), p.isComment = false) ∧
    stripComments (stripComments s) = stripComments s ∧
    entries (String.ofList (stripComments s)) = entries (String.ofList s) ∧
    (maskLiterals (stripComments s)).length = s.length ∧
    (∀ i : ℕ, (maskLiterals (stripComments s))[i]? = some '\n' ↔ s[i]? = some '\n') ∧
    maskLiterals (stripComments s) = (pieces s).flatMap Piece.faded := by
  refine ⟨?_, ?_, stripComments_stripComments s, ?_, ?_, ?_, maskLiterals_stripComments s⟩
  · rw [literals, pieces_stripComments]
    exact filter_placed_uncommented 0 (pieces s)
  · intro p hp
    rw [pieces_stripComments] at hp
    exact isComment_of_mem_uncommented hp
  · rw [entries, entries, String.toList_ofList, String.toList_ofList, stripComments_stripComments]
  · rw [length_maskLiterals, length_stripComments]
  · intro i
    rw [getElem?_eq_newline_iff (forall₂_maskLiterals _), getElem?_eq_newline_iff (forall₂_stripComments s)]

end ModuleReach.Source
