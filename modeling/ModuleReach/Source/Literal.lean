/-!
# Literals and comments in a source

A source is cut into literals (texts in double or single quotes or in backticks), comments, and single other characters.  At
each place the longest thing that can begin there is taken; a quote that is never closed begins nothing and is a character
like any other, and so is the opening of a comment that is never closed.

A literal in quotes ends at the line's end unless a backslash stands before the break; one in backticks may go over lines.
A backslash takes the next character with it.

## Main definitions

* `Source.Piece` — a literal, a comment, or another character.
* `Source.literalBody?` — the body of a literal after its opening mark.
* `Source.pieces` — the pieces of a source.
* `Source.stripComments` — a source with blanks for its comments.
* `Source.maskLiterals` — a source with blanks for the bodies of its literals.

## Main results

* `Source.text_pieces` — the pieces put together are the source.
* `Source.length_stripComments`, `Source.length_maskLiterals` — blanking moves nothing.
-/

namespace ModuleReach.Source

/-- A piece of a source. -/
inductive Piece
  /-- A literal between two marks. -/
  | literal (mark : Char) (body : List Char)
  /-- A comment with its opening and closing. -/
  | comment (text : List Char)
  /-- Any other character. -/
  | other (c : Char)
  deriving DecidableEq, Repr

/-- The mark of a literal that may go over lines. -/
def backtick : Char := '\x60'

/-- Whether a character opens a literal. -/
def isMark (c : Char) : Bool := c == '"' || c == '\'' || c == backtick

/-- The body of a literal after its opening mark, and what follows its closing mark. -/
def literalBody? (mark : Char) : List Char → Option (List Char × List Char)
  | [] => none
  | [c] => if c = mark then some ([], []) else none
  | c :: d :: rest =>
    if c = mark then some ([], d :: rest)
    else if c = '\\' then (literalBody? mark rest).map fun r => (c :: d :: r.1, r.2)
    else if c = '\n' ∧ mark ≠ backtick then none
    else (literalBody? mark (d :: rest)).map fun r => (c :: r.1, r.2)

/-- What precedes the end of a block comment, and what follows it. -/
def blockBody? : List Char → Option (List Char × List Char)
  | [] => none
  | [_] => none
  | c :: d :: rest =>
    if c = '*' ∧ d = '/' then some ([], rest)
    else (blockBody? (d :: rest)).map fun r => (c :: r.1, r.2)

/-- The piece at the front of a text that begins with a given character, and what follows it. -/
def firstPiece (c : Char) (rest : List Char) : Piece × List Char :=
  if isMark c then
    match literalBody? c rest with
    | some (body, rest) => (.literal c body, rest)
    | none => (.other c, rest)
  else if c = '/' then
    match rest with
    | '/' :: rest => (.comment ('/' :: '/' :: rest.takeWhile (· != '\n')), rest.dropWhile (· != '\n'))
    | '*' :: rest' =>
      match blockBody? rest' with
      | some (body, rest) => (.comment ('/' :: '*' :: body ++ ['*', '/']), rest)
      | none => (.other c, rest)
    | rest => (.other c, rest)
  else (.other c, rest)

/-- The characters of a piece. -/
def Piece.text : Piece → List Char
  | literal mark body => mark :: body ++ [mark]
  | comment text => text
  | other c => [c]

theorem literalBody?_eq_some {mark : Char} {s body rest : List Char}
    (h : literalBody? mark s = some (body, rest)) : s = body ++ mark :: rest := by
  fun_induction literalBody? mark s generalizing body with
  | case1 => simp at h
  | case2 => simp_all
  | case3 => simp at h
  | case4 => simp_all
  | case5 d t _ ih =>
    obtain ⟨⟨b, r⟩, hr, he⟩ := Option.map_eq_some_iff.1 h
    cases he
    simp_all [ih hr]
  | case6 => simp at h
  | case7 c d t _ _ _ ih =>
    obtain ⟨⟨b, r⟩, hr, he⟩ := Option.map_eq_some_iff.1 h
    cases he
    simp_all [ih hr]

theorem blockBody?_eq_some {s body rest : List Char} (h : blockBody? s = some (body, rest)) :
    s = body ++ '*' :: '/' :: rest := by
  fun_induction blockBody? s generalizing body with
  | case1 => simp at h
  | case2 => simp at h
  | case3 c d t hc => simp_all
  | case4 c d t _ ih =>
    obtain ⟨⟨b, r⟩, hr, he⟩ := Option.map_eq_some_iff.1 h
    cases he
    simp [ih hr]

/-- A piece and what follows it are the text that they were cut from. -/
theorem text_firstPiece (c : Char) (rest : List Char) :
    (firstPiece c rest).1.text ++ (firstPiece c rest).2 = c :: rest := by
  unfold firstPiece
  split
  · split
    · rename_i h
      simp [Piece.text, literalBody?_eq_some h]
    · rfl
  · split
    · subst_vars
      split
      · simp [Piece.text, List.takeWhile_append_dropWhile]
      · split
        · rename_i h
          simp [Piece.text, blockBody?_eq_some h]
        · rfl
      · rfl
    · rfl

theorem length_firstPiece_le (c : Char) (rest : List Char) :
    (firstPiece c rest).2.length ≤ rest.length := by
  have h := congrArg List.length (text_firstPiece c rest)
  have pos : 0 < (firstPiece c rest).1.text.length := by
    unfold firstPiece
    repeat' split
    all_goals simp [Piece.text]
  simp only [List.length_append, List.length_cons] at h
  omega

/-- The pieces of a source. -/
def pieces : List Char → List Piece
  | [] => []
  | c :: rest => (firstPiece c rest).1 :: pieces (firstPiece c rest).2
termination_by s => s.length
decreasing_by
  have := length_firstPiece_le c rest
  simp only [List.length_cons]
  omega

/-- The pieces put together are the source. -/
theorem text_pieces (s : List Char) : (pieces s).flatMap Piece.text = s := by
  fun_induction pieces s with
  | case1 => rfl
  | case2 c rest ih => rw [List.flatMap_cons, ih, text_firstPiece]

/-! ### Blanking -/

/-- A text with a blank for every character but the line breaks. -/
def blanked (s : List Char) : List Char := s.map fun c => if c = '\n' then c else ' '

@[simp] theorem length_blanked (s : List Char) : (blanked s).length = s.length := by
  simp [blanked]

/-- A piece with blanks for what is a comment. -/
def Piece.stripped : Piece → List Char
  | comment text => blanked text
  | piece => piece.text

/-- A piece with blanks for what is the body of a literal. -/
def Piece.masked : Piece → List Char
  | literal mark body => mark :: blanked body ++ [mark]
  | piece => piece.text

/-- A source with blanks for its comments. -/
def stripComments (s : List Char) : List Char := (pieces s).flatMap Piece.stripped

/-- A source with blanks for the bodies of its literals. -/
def maskLiterals (s : List Char) : List Char := (pieces s).flatMap Piece.masked

@[simp] theorem length_stripped (p : Piece) : p.stripped.length = p.text.length := by
  cases p <;> simp [Piece.stripped, Piece.text]

@[simp] theorem length_masked (p : Piece) : p.masked.length = p.text.length := by
  cases p <;> simp [Piece.masked, Piece.text]

/-- Blanking comments moves nothing. -/
@[simp] theorem length_stripComments (s : List Char) : (stripComments s).length = s.length := by
  conv => rhs; rw [← text_pieces s]
  simp [stripComments, List.length_flatMap]

/-- Blanking literals moves nothing. -/
@[simp] theorem length_maskLiterals (s : List Char) : (maskLiterals s).length = s.length := by
  conv => rhs; rw [← text_pieces s]
  simp [maskLiterals, List.length_flatMap]

end ModuleReach.Source
