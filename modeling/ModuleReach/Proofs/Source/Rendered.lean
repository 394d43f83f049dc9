import ModuleReach.Proofs.Source.Statements

/-!
# Sources that are written item by item

A source is written as a list of items: statements that ask for a file, and comments and literals that ask for nothing.  The
entries of such a source are those of its items, in order and without repeats, whatever stands in the specifiers,
clauses, comments and literals.

## Main definitions

* `Source.Clause`, `Source.Statement` — what a static form binds, and the statements with a specifier.
* `Source.Item` — the items; `Source.Item.text` is an item as it is written, `Source.Item.request?` the entry that it asks for.
* `Source.Item.block` — an item as a block of a source.

## Main results

* `Source.entries_render` — the entries of a source that is written item by item.
-/

namespace ModuleReach.Source

/-! ### Items -/

/-- What a static form binds: a star, names, braces, commas and blanks between them, as in `* as all` and in
`first, { second, third as other }`. -/
structure Clause where
  text : List Char
  isClause : IsClause text

/-- A statement with a specifier; `isAsset` stands for the attributes that say that it asks for an asset. -/
inductive Statement
  /-- The call `require("…")`. -/
  | require
  /-- The call `require.addon("…")`. -/
  | addon
  /-- The call `require.asset("…")`. -/
  | asset
  /-- The form `import "…"`. -/
  | importOnly (isAsset : Bool)
  /-- The form `import … from "…"`. -/
  | importFrom (clause : Clause) (isAsset : Bool)
  /-- The form `export … from "…"`. -/
  | exportFrom (clause : Clause) (isAsset : Bool)
  /-- The call `import("…")`. -/
  | importCall (isAsset : Bool)

/-- A part of a source. -/
inductive Item
  /-- A statement with a specifier. -/
  | statement (s : Statement) (q : Quoted)
  /-- The call `require.addon()`. -/
  | bareAddon
  /-- A comment up to the end of the line. -/
  | lineComment (text : List Char) (h : '\n' ∉ text)
  /-- A comment that is closed. -/
  | blockComment (body : List Char) (h : ¬ ['*', '/'] <:+: body)
  /-- A literal by itself; only one in backticks may go over lines. -/
  | literal (mark : Char) (body : List Char) (hmark : isMark mark = true)
      (h : ∀ c ∈ body, c ≠ mark ∧ c ≠ '\\' ∧ (c = '\n' → mark = backtick))

/-- The literal as it is written. -/
def Quoted.text (q : Quoted) : List Char := q.mark :: q.body ++ [q.mark]

namespace Statement

/-- What is written before the specifier. -/
def front : Statement → List Char
  | require => "require(".toList
  | addon => "require.addon(".toList
  | asset => "require.asset(".toList
  | importOnly _ => "import ".toList
  | importFrom clause _ => "import ".toList ++ clause.text ++ " from ".toList
  | exportFrom clause _ => "export ".toList ++ clause.text ++ " from ".toList
  | importCall _ => "import(".toList

/-- The attributes that say that a static form asks for an asset. -/
def attributesText (isAsset : Bool) : List Char :=
  if isAsset then " with \x7b type: \"asset\" \x7d".toList else []

/-- The second argument that says that a call of `import` asks for an asset. -/
def optionsText (isAsset : Bool) : List Char :=
  if isAsset then ", \x7b with: \x7b type: \"asset\" \x7d \x7d".toList else []

/-- What is written after the specifier. -/
def back : Statement → List Char
  | require => [')']
  | addon => [')']
  | asset => [')']
  | importOnly isAsset => attributesText isAsset
  | importFrom _ isAsset => attributesText isAsset
  | exportFrom _ isAsset => attributesText isAsset
  | importCall isAsset => optionsText isAsset ++ [')']

/-- The entry that a statement asks for. -/
def entry (s : Statement) (specifier : String) : Entry :=
  match s with
  | require => ⟨specifier, false, false, true, false⟩
  | addon => ⟨specifier, true, false, true, false⟩
  | asset => ⟨specifier, false, true, true, false⟩
  | importOnly isAsset => ⟨specifier, false, isAsset, false, true⟩
  | importFrom _ isAsset => ⟨specifier, false, isAsset, false, true⟩
  | exportFrom _ isAsset => ⟨specifier, false, isAsset, false, true⟩
  | importCall isAsset => ⟨specifier, false, isAsset, false, true⟩

end Statement

namespace Item

/-- An item as it is written.  A semicolon and a line break end it; a line break alone ends a comment up to the end of the
line. -/
def text : Item → List Char
  | statement s q => s.front ++ (q.text ++ (s.back ++ ending))
  | bareAddon => "require.addon()".toList ++ ending
  | lineComment text _ => '/' :: '/' :: text ++ ['\n']
  | blockComment body _ => '/' :: '*' :: body ++ ['*', '/'] ++ ending
  | literal mark body _ _ => mark :: body ++ [mark] ++ ending

/-- The entry that an item asks for; comments and literals ask for none. -/
def request? : Item → Option Entry
  | statement s q => some (s.entry q.specifier)
  | bareAddon => some ⟨"", true, false, true, false⟩
  | _ => none

end Item

/-- A source as it is written item by item. -/
def render (items : List Item) : String := String.ofList (items.flatMap Item.text)

/-! ### Items as pieces -/

/-- Characters that open nothing, as pieces. -/
def others (s : List Char) : List Piece := s.map Piece.other

/-- Whether no literal and no comment can begin in a text. -/
def opensNothing (s : List Char) : Bool := s.all fun c => !isMark c && c != '/'

theorem closed_of_mem_others {s : List Char} (h : opensNothing s = true) :
    ∀ p ∈ others s, p.Closed := by
  intro p hp
  obtain ⟨c, hc, rfl⟩ := List.mem_map.1 hp
  have hopens := List.all_eq_true.1 h c hc
  simp only [Bool.and_eq_true, Bool.not_eq_true', bne_iff_ne] at hopens
  exact hopens

theorem opensNothing_append {s t : List Char} (hs : opensNothing s = true) (ht : opensNothing t = true) :
    opensNothing (s ++ t) = true := by
  rw [opensNothing, List.all_append, Bool.and_eq_true]
  exact ⟨hs, ht⟩

/-- Nothing opens in a clause. -/
theorem opensNothing_of_isClause {s : List Char} (h : IsClause s) : opensNothing s = true := by
  rw [opensNothing, List.all_eq_true]
  intro c hc
  have hclause := h c hc
  simp only [Bool.and_eq_true, Bool.not_eq_true', bne_iff_ne]
  refine ⟨?_, ?_⟩
  · rw [Bool.eq_false_iff]
    intro hmark
    simp only [isMark, Bool.or_eq_true, beq_iff_eq] at hmark
    rcases hmark with (rfl | rfl) | rfl
    · cases hclause
    · cases hclause
    · cases hclause
  · rintro rfl
    cases hclause

@[simp] theorem text_others (s : List Char) : (others s).flatMap Piece.text = s :=
  flatMap_map_other (fun _ => rfl) s

@[simp] theorem cells_others (s : List Char) : (others s).flatMap Piece.cells = plain s := by
  induction s with
  | nil => rfl
  | cons c s ih =>
    rw [others, List.map_cons, List.flatMap_cons, ← others, ih]
    rfl

namespace Statement

/-- The pieces of what is written after the specifier. -/
def backPieces : Statement → List Piece
  | require => others [')']
  | addon => others [')']
  | asset => others [')']
  | importOnly isAsset => attributesPieces isAsset
  | importFrom _ isAsset => attributesPieces isAsset
  | exportFrom _ isAsset => attributesPieces isAsset
  | importCall isAsset => optionsPieces isAsset ++ others [')']
where
  attributesPieces (isAsset : Bool) : List Piece :=
    if isAsset then others " with \x7b type: ".toList ++ assetType.piece :: others " \x7d".toList else []
  optionsPieces (isAsset : Bool) : List Piece :=
    if isAsset then others ", \x7b with: \x7b type: ".toList ++ assetType.piece :: others " \x7d \x7d".toList
    else []

/-- What the forms are shown of what is written after the specifier. -/
def backCells (s : Statement) : List Cell := s.backPieces.flatMap Piece.cells

theorem text_backPieces (s : Statement) : s.backPieces.flatMap Piece.text = s.back := by
  cases s with
  | importOnly isAsset => cases isAsset <;> rfl
  | importFrom clause isAsset => cases isAsset <;> rfl
  | exportFrom clause isAsset => cases isAsset <;> rfl
  | importCall isAsset => cases isAsset <;> rfl
  | _ => rfl

theorem backCells_static {s : Statement} {isAsset : Bool}
    (h : s.backPieces = backPieces.attributesPieces isAsset) : s.backCells = attributesCells isAsset := by
  rw [backCells, h]
  cases isAsset <;> rfl

theorem backCells_importCall (isAsset : Bool) :
    (importCall isAsset).backCells = optionsCells isAsset ++ plain [')'] := by
  cases isAsset <;> rfl

theorem closed_of_mem_backPieces (s : Statement) : ∀ p ∈ s.backPieces, p.Closed := by
  have hasset : ∀ {front back : List Char}, opensNothing front = true → opensNothing back = true →
      ∀ p ∈ others front ++ assetType.piece :: others back, p.Closed := by
    intro front back hfront hback
    rw [List.forall_mem_append, List.forall_mem_cons]
    exact ⟨closed_of_mem_others hfront, assetType.closed_piece, closed_of_mem_others hback⟩
  have hattributes : ∀ isAsset, ∀ p ∈ backPieces.attributesPieces isAsset, p.Closed := by
    intro isAsset
    cases isAsset with
    | false => exact List.forall_mem_nil _
    | true => exact hasset (by decide) (by decide)
  have hoptions : ∀ isAsset, ∀ p ∈ backPieces.optionsPieces isAsset, p.Closed := by
    intro isAsset
    cases isAsset with
    | false => exact List.forall_mem_nil _
    | true => exact hasset (by decide) (by decide)
  have hclosing : ∀ p ∈ others [')'], p.Closed := closed_of_mem_others (by decide)
  cases s with
  | require => exact hclosing
  | addon => exact hclosing
  | asset => exact hclosing
  | importOnly isAsset => exact hattributes isAsset
  | importFrom clause isAsset => exact hattributes isAsset
  | exportFrom clause isAsset => exact hattributes isAsset
  | importCall isAsset => exact List.forall_mem_append.2 ⟨hoptions isAsset, hclosing⟩

theorem opensNothing_front (s : Statement) : opensNothing s.front = true := by
  unfold front
  cases s with
  | importFrom clause isAsset =>
    have hclause := opensNothing_of_isClause clause.isClause
    exact opensNothing_append (opensNothing_append (by decide) hclause) (by decide)
  | exportFrom clause isAsset =>
    have hclause := opensNothing_of_isClause clause.isClause
    exact opensNothing_append (opensNothing_append (by decide) hclause) (by decide)
  | _ => rfl

/-- What is found in a statement is its entry. -/
theorem tight (s : Statement) (q : Quoted) (rest : List Cell) :
    Tight (some (s.entry q.specifier)) rest.length
      (plain s.front ++ (q.cells ++ (s.backCells ++ plain ending))) rest := by
  have hstatic : ∀ {isAsset : Bool}, IsClause s.front →
      s.backPieces = backPieces.attributesPieces isAsset →
      Tight (some ⟨q.specifier, false, isAsset, false, true⟩) rest.length
        (plain s.front ++ (q.cells ++ (s.backCells ++ plain ending))) rest := by
    intro isAsset hfront hback
    rw [backCells_static hback]
    exact tight_static hfront q isAsset rest
  cases s with
  | require => exact tight_require q rest
  | addon => exact tight_addon q rest
  | asset => exact tight_asset q rest
  | importOnly isAsset =>
    have hfront : IsClause "import ".toList := by decide
    exact hstatic hfront rfl
  | importFrom clause isAsset =>
    have hfront : IsClause ("import ".toList ++ clause.text ++ " from ".toList) :=
      (IsClause.append (by decide) clause.isClause).append (by decide)
    exact hstatic hfront rfl
  | exportFrom clause isAsset =>
    have hfront : IsClause ("export ".toList ++ clause.text ++ " from ".toList) :=
      (IsClause.append (by decide) clause.isClause).append (by decide)
    exact hstatic hfront rfl
  | importCall isAsset =>
    rw [backCells_importCall]
    exact tight_call q isAsset rest

/-- What stands between a keyword and a specifier. -/
theorem isClause_from (clause : Clause) : IsClause (' ' :: clause.text ++ " from ".toList) :=
  (IsClause.append (by decide : IsClause [' ']) clause.isClause).append (by decide)

/-- The entry of a statement is found at its front. -/
theorem exists_found (s : Statement) (q : Quoted) {before : Option Char} (hbefore : IsLineStart before)
    (rest : List Cell) : ∃ form ∈ forms, ∃ after,
      form before (plain s.front ++ (q.cells ++ (s.backCells ++ plain ending)) ++ rest) =
        some (s.entry q.specifier, after) := by
  have hword := hbefore.beginsWord
  have hkeyword := hbefore.beginsKeyword
  rw [List.append_assoc, List.append_assoc, List.append_assoc]
  cases s with
  | require =>
    exact ⟨requireForm, by simp [forms], _, (requireForm_written q).2 ⟨hkeyword, rfl, rfl⟩⟩
  | addon => exact ⟨addonForm, by simp [forms], _, (addonForm_written q).2 ⟨hword, rfl, rfl⟩⟩
  | asset => exact ⟨assetForm, by simp [forms], _, (assetForm_written q).2 ⟨hword, rfl, rfl⟩⟩
  | importOnly isAsset =>
    rw [backCells_static rfl]
    exact ⟨importForm, by simp [forms], _, staticForm_written (by decide) q isAsset hkeyword rfl⟩
  | importFrom clause isAsset =>
    have hclause := isClause_from clause
    have hallowed := namesSource_from clause.text
    rw [backCells_static rfl]
    exact ⟨importForm, by simp [forms], _,
      staticForm_written hclause q isAsset hkeyword (by rw [hallowed, Bool.or_true])⟩
  | exportFrom clause isAsset =>
    have hclause := isClause_from clause
    have hallowed := namesSource_from clause.text
    rw [backCells_static rfl]
    exact ⟨exportForm, by simp [forms], _, staticForm_written hclause q isAsset hkeyword hallowed⟩
  | importCall isAsset =>
    rw [backCells_importCall, List.append_assoc]
    exact ⟨callForm, by simp [forms], _, (callForm_written q isAsset).2 ⟨hkeyword, rfl, rfl⟩⟩

end Statement

namespace Item

/-- The pieces of an item. -/
def pieces : Item → List Piece
  | statement s q => others s.front ++ q.piece :: (s.backPieces ++ others ending)
  | bareAddon => others ("require.addon()".toList ++ ending)
  | lineComment text _ => [.comment ('/' :: '/' :: text), .other '\n']
  | blockComment body _ => .comment ('/' :: '*' :: body ++ ['*', '/']) :: others ending
  | literal mark body _ _ => .literal mark body :: others ending

/-- What the forms are shown of an item. -/
def cells (item : Item) : List Cell := item.pieces.flatMap Piece.cells

/-- The pieces of an item are the item as it is written. -/
theorem text_pieces (item : Item) : item.pieces.flatMap Piece.text = item.text := by
  unfold pieces text
  cases item with
  | statement s q =>
    have hquoted : q.piece.text = q.text := rfl
    simp only [List.flatMap_append, List.flatMap_cons, text_others, s.text_backPieces, hquoted]
  | bareAddon => exact text_others _
  | lineComment text h => rfl
  | blockComment body h => simp only [List.flatMap_cons, text_others, Piece.text]
  | literal mark body hmark h => simp only [List.flatMap_cons, text_others, Piece.text]

/-- The pieces of an item are read back. -/
theorem readable_pieces (item : Item) : Readable item.pieces := by
  have hending : ∀ p ∈ others ending, p.Closed := closed_of_mem_others (by decide)
  unfold pieces
  cases item with
  | statement s q =>
    refine readable_of_closed ?_
    rw [List.forall_mem_append, List.forall_mem_cons, List.forall_mem_append]
    exact ⟨closed_of_mem_others s.opensNothing_front, q.closed_piece, s.closed_of_mem_backPieces, hending⟩
  | bareAddon => exact readable_of_closed (closed_of_mem_others (by decide))
  | lineComment text h => exact .line h .nil
  | blockComment body h =>
    refine readable_of_closed (List.forall_mem_cons.2 ⟨?_, hending⟩)
    exact ⟨body, h, rfl⟩
  | literal mark body hmark h =>
    refine readable_of_closed (List.forall_mem_cons.2 ⟨?_, hending⟩)
    exact ⟨hmark, h⟩

/-! ### Items as blocks -/

theorem cells_statement (s : Statement) (q : Quoted) :
    (statement s q).cells = plain s.front ++ (q.cells ++ (s.backCells ++ plain ending)) := by
  unfold cells pieces
  simp only [List.flatMap_append, List.flatMap_cons, cells_others]
  rfl

/-- What the forms are shown of an item ends with a line break. -/
theorem getLast?_cells (item : Item) : item.cells.getLast? = some ⟨'\n', '\n'⟩ := by
  have hend : ∃ cs, item.cells = cs ++ [⟨'\n', '\n'⟩] := by
    cases item with
    | statement s q =>
      refine ⟨plain s.front ++ (q.cells ++ (s.backCells ++ plain [';'])), ?_⟩
      rw [cells_statement]
      simp [ending]
    | bareAddon => exact ⟨plain "require.addon();".toList, rfl⟩
    | lineComment text h => exact ⟨plain (blanked ('/' :: '/' :: text)), rfl⟩
    | blockComment body h =>
      refine ⟨plain (blanked ('/' :: '*' :: body ++ ['*', '/'])) ++ plain [';'], ?_⟩
      simp [cells, pieces, others, Piece.cells, ending]
    | literal mark body hmark h =>
      refine ⟨(Piece.literal mark body).cells ++ plain [';'], ?_⟩
      simp [cells, pieces, others, Piece.cells, ending]
  obtain ⟨cs, hcs⟩ := hend
  rw [hcs, List.getLast?_append]
  rfl

/-- No keyword begins in a comment or in a literal by itself. -/
theorem clear_cells {item : Item} (h : item.request? = none) : clear (item.cells.map Cell.shown) = true := by
  have hending : clear ((plain ending).map Cell.shown) = true := rfl
  unfold cells pieces
  cases item with
  | statement s q => cases h
  | bareAddon => cases h
  | lineComment text h =>
    have hshown : ([Piece.comment ('/' :: '/' :: text), .other '\n'].flatMap Piece.cells).map Cell.shown =
        blanked ('/' :: '/' :: text) ++ ['\n'] := by simp [Piece.cells]
    rw [hshown]
    exact clear_append (clear_blanked _) (by decide)
  | blockComment body h =>
    rw [List.flatMap_cons, cells_others, List.map_append, Piece.cells, map_shown_plain]
    exact clear_append (clear_blanked _) hending
  | literal mark body hmark h =>
    rw [List.flatMap_cons, cells_others, List.map_append]
    exact clear_append (clear_literal hmark body) hending

/-- What is found in an item is its entry. -/
theorem tight (item : Item) (rest : List Cell) : Tight item.request? rest.length item.cells rest := by
  cases item with
  | statement s q =>
    rw [cells_statement]
    exact s.tight q rest
  | bareAddon => exact tight_bareAddon rest
  | lineComment text h => exact tight_of_clear (clear_cells rfl) _ _ _
  | blockComment body h => exact tight_of_clear (clear_cells rfl) _ _ _
  | literal mark body hmark h => exact tight_of_clear (clear_cells rfl) _ _ _

/-- The entry of an item is found at its front. -/
theorem exists_found (item : Item) {entry : Entry} (h : item.request? = some entry) {before : Option Char}
    (hbefore : IsLineStart before) (rest : List Cell) :
    ∃ form ∈ forms, ∃ after, form before (item.cells ++ rest) = some (entry, after) := by
  cases item with
  | statement s q =>
    cases h
    rw [cells_statement]
    exact s.exists_found q hbefore rest
  | bareAddon =>
    cases h
    exact ⟨addonForm, by simp [forms], _, addonForm_bare.2 ⟨hbefore.beginsWord, rfl, rfl⟩⟩
  | lineComment text hbreak => cases h
  | blockComment body hclosing => cases h
  | literal mark body hmark hbody => cases h

/-- An item as a block of a source. -/
def block (item : Item) : Block where
  cells := item.cells
  request? := item.request?
  ends := item.getLast?_cells
  tight := item.tight
  found _ h _ rest hbefore := item.exists_found h hbefore rest

end Item

/-! ### Sources -/

/-- The forms are shown a source that is written item by item as blocks. -/
theorem cells_render (items : List Item) :
    cells (stripComments (render items).toList) = blocksCells (items.map Item.block) := by
  have htext : items.flatMap Item.text = (items.flatMap Item.pieces).flatMap Piece.text := by
    rw [List.flatMap_assoc]
    congr 1
    funext item
    exact item.text_pieces.symm
  have hreadable : Readable (items.flatMap Item.pieces) := Readable.flatMap Item.readable_pieces items
  rw [render, String.toList_ofList, htext, cells_stripComments hreadable, List.flatMap_assoc, blocksCells,
    List.flatMap_map]
  rfl

/-- **Lexing gives back what was written.**  The entries of a source that is written item by item are those of its items, in
order and without repeats; comments and literals by themselves contribute nothing, whatever they say. -/
theorem entries_render (items : List Item) :
    entries (render items) = (items.filterMap Item.request?).eraseDups := by
  have hentries : (items.map Item.block).filterMap Block.request? = items.filterMap Item.request? := by
    rw [List.filterMap_map]
    rfl
  rw [entries, cells_render, eraseDups_located, hentries]

example : entries "import a from 'it\"s';\n// require(\"d\")\nrequire.addon();\n" =
    [⟨"it\"s", false, false, false, true⟩, ⟨"", true, false, true, false⟩] := by
  cbv

end ModuleReach.Source
