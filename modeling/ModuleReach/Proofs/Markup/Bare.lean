import Mathlib.Data.List.TakeWhile
import ModuleReach.Markup.Basic

/-!
# Texts that say no more than they show

A text that is read as markup is shown as it is if it holds no tag and no name of a pictograph between colons, and no
backslash that could stand before a tag.  A tag between two such texts is gone, and if it closes another it is a fault, for
nothing is open there.  A text is shown in some way unless a tag in it closes another.

## Main definitions

* `Pictograph.IsName` — the names of pictographs.
* `Markup.Bare` — the texts without tags and pictographs.
* `Markup.ClosesNothing` — the texts without closing tags.

## Main results

* `Markup.exists_of_tag_mem` — a tag among the pieces of a text stands in the text.
* `Markup.plain_of_bare` — a bare text is shown as it is.
* `Markup.plain_of_opening`, `Markup.exists_plain_eq_error` — one tag between bare texts.
* `Markup.exists_plain_of_closesNothing` — a text without closing tags can be shown.
-/

namespace ModuleReach

open Text

/-! ### Pictographs -/

namespace Pictograph

/-- Whether there is a pictograph of a name. -/
def IsName (written : List Char) : Prop := (ofWritten? written).isSome

/-- A name between colons stands where it is found, and has neither a colon nor a blank. -/
theorem eq_append_of_code? {s name rest : List Char} (h : code? s = some (name, rest)) :
    s = name ++ ':' :: rest ∧ ':' ∉ name ∧ ∀ c ∈ name, isBlank c = false := by
  induction s generalizing name with
  | nil => cases h
  | cons c tail ih =>
    rw [code?] at h
    split at h
    · rename_i hcolon
      cases h
      simp [hcolon]
    · rename_i hcolon
      split at h
      · cases h
      · rename_i hblank
        obtain ⟨⟨name', rest'⟩, hcut, heq⟩ := Option.map_eq_some_iff.1 h
        cases heq
        obtain ⟨rfl, hname, hblanks⟩ := ih hcut
        refine ⟨rfl, ?_, List.forall_mem_cons.2 ⟨by simpa using hblank, hblanks⟩⟩
        exact List.not_mem_cons_of_ne_of_not_mem (Ne.symm hcolon) hname

/-- A text in which no pictograph is named stays as it is. -/
theorem replace_of_unnamed {s : List Char}
    (h : ∀ name, ':' ∉ name → (∀ c ∈ name, isBlank c = false) → ':' :: name ++ [':'] <:+: s → ¬ IsName name) :
    replace s = s := by
  fun_induction replace s with
  | case1 => rfl
  | case2 rest written after hcode ih =>
    obtain ⟨rfl, hname, hblanks⟩ := eq_append_of_code? hcode
    have hrest : after <:+ ':' :: (written ++ ':' :: after) := ⟨':' :: written ++ [':'], by simp⟩
    have hnone : ofWritten? written = none := by
      simpa [IsName] using h written hname hblanks ⟨[], after, by simp⟩
    rw [hnone, ih fun name hname hblanks hstands => h name hname hblanks (hstands.trans hrest.isInfix)]
    simp
  | case3 rest hcode ih =>
    have hrest : rest <:+ ':' :: rest := List.suffix_cons _ _
    rw [ih fun name hname hblanks hstands => h name hname hblanks (hstands.trans hrest.isInfix)]
  | case4 c rest hcolon ih =>
    have hrest : rest <:+ c :: rest := List.suffix_cons _ _
    rw [ih fun name hname hblanks hstands => h name hname hblanks (hstands.trans hrest.isInfix)]

end Pictograph

namespace Markup

variable {s body : List Char}

/-! ### Tags and where they stand -/

/-- Whether a tag with a given text between its brackets stands in a text. -/
def TagIn (body s : List Char) : Prop := '[' :: body ++ [']'] <:+: s

/-- Whether a text can stand between the brackets of a tag. -/
def IsBody (body : List Char) : Prop :=
  ∃ c rest, body = c :: rest ∧ opensTag c = true ∧ '[' ∉ rest ∧ ']' ∉ rest

/-- A tag at the front of a text stands there, after some backslashes. -/
theorem isBody_of_tag? {n : Nat} {after : List Char} (h : tag? s = some (n, body, after)) :
    IsBody body ∧ ∃ before, s = before ++ ('[' :: body ++ [']']) ++ after := by
  unfold tag? at h
  split at h
  · rename_i c rest hdrop
    dsimp only at h
    split at h
    · rename_i after' hafter
      split at h
      · rename_i hopens
        cases h
        have hs : s.takeWhile (· == '\\') ++ '[' :: c :: rest = s := by rw [← hdrop, List.takeWhile_append_dropWhile]
        have hrest : rest.takeWhile (fun d => d != '[' && d != ']') ++ ']' :: after = rest := by
          rw [← hafter, List.takeWhile_append_dropWhile]
        have hbody : ∀ d ∈ rest.takeWhile (fun d => d != '[' && d != ']'), d ≠ '[' ∧ d ≠ ']' := fun d hd => by
          simpa using List.mem_takeWhile_imp hd
        refine ⟨⟨c, _, rfl, hopens, fun hmem => (hbody _ hmem).1 rfl, fun hmem => (hbody _ hmem).2 rfl⟩,
          s.takeWhile (· == '\\'), ?_⟩
        conv => lhs; rw [← hs, ← hrest]
        simp
      · cases h
    · cases h
  · cases h

theorem tag_mem_consRun {c : Char} {ps : List Piece} (h : .tag body ∈ consRun c ps) : .tag body ∈ ps := by
  unfold consRun at h
  split at h <;> simpa using h

theorem eq_of_tag_mem_tagPieces {backslashes : Nat} {body' : List Char} (h : .tag body ∈ tagPieces backslashes body') :
    body = body' := by
  unfold tagPieces at h
  split at h <;> split at h <;> simp_all

/-- A tag among the pieces of a text stands in the text. -/
theorem exists_of_tag_mem (h : .tag body ∈ pieces s) : IsBody body ∧ TagIn body s := by
  fun_induction pieces s with
  | case1 s backslashes body' after htag ih =>
    obtain ⟨hbody, before, hs⟩ := isBody_of_tag? htag
    rcases List.mem_append.1 h with h | h
    · cases eq_of_tag_mem_tagPieces h
      exact ⟨hbody, before, after, hs.symm⟩
    · have hafter : after <:+ s := ⟨before ++ ('[' :: body' ++ [']']), hs.symm⟩
      exact (ih h).imp_right fun hin => hin.trans hafter.isInfix
  | case2 => cases h
  | case3 c rest _ ih =>
    exact (ih (tag_mem_consRun h)).imp_right fun hin => hin.trans (List.suffix_cons c rest).isInfix

/-! ### Bare texts -/

/-- A text without tags and without names of pictographs between colons. -/
structure Bare (isPictograph : List Char → Prop) (s : List Char) : Prop where
  untagged : ∀ body, IsBody body → ¬ TagIn body s
  unnamed : ∀ name, ':' ∉ name → (∀ c ∈ name, isBlank c = false) → ':' :: name ++ [':'] <:+: s → ¬ isPictograph name

/-- A text without brackets and colons is bare, whatever the pictographs are called. -/
theorem bare_of_not_mem {isPictograph : List Char → Prop} (h : '[' ∉ s) (hcolon : ':' ∉ s) : Bare isPictograph s where
  untagged _ _ hin := h (hin.subset List.mem_cons_self)
  unnamed _ _ _ hstands := absurd (hstands.subset List.mem_cons_self) hcolon

/-- No tag is at the front of a text in which none stands. -/
theorem tag?_of_untagged (h : ∀ body, IsBody body → ¬ TagIn body s) : tag? s = none := by
  cases htag : tag? s with
  | none => rfl
  | some found =>
    obtain ⟨backslashes, body, after⟩ := found
    obtain ⟨hbody, before, hs⟩ := isBody_of_tag? htag
    exact absurd ⟨before, after, hs.symm⟩ (h body hbody)

theorem tag?_bracket (c : Char) (rest : List Char) :
    tag? ('[' :: c :: rest) =
      match rest.dropWhile (fun d => d != '[' && d != ']') with
      | ']' :: after =>
        if opensTag c then some (0, c :: rest.takeWhile (fun d => d != '[' && d != ']'), after) else none
      | _ => none := rfl

theorem tag?_cons_of_ne {c : Char} (hbackslash : c ≠ '\\') (hopen : c ≠ '[') (rest : List Char) :
    tag? (c :: rest) = none := by
  have hdrop : (c :: rest).dropWhile (· == '\\') = c :: rest := by simp [hbackslash]
  unfold tag?
  rw [hdrop]
  split
  · rename_i heq
    cases heq
    exact absurd rfl hopen
  · rfl

/-- Nor is there one if another bracket follows that text. -/
theorem tag?_append_bracket {c : Char} {t : List Char} (h : tag? (c :: s) = none) (hc : c ≠ '\\') :
    tag? (c :: s ++ '[' :: t) = none := by
  -- A tag can begin only with a bracket, and the bracket behind the text ends its search for a closing one.
  by_cases hopen : c = '['
  · subst hopen
    cases s with
    | nil =>
      have hopens : opensTag '[' = false := rfl
      show tag? ('[' :: '[' :: t) = none
      rw [tag?_bracket, hopens]
      split <;> rfl
    | cons d s =>
      show tag? ('[' :: d :: (s ++ '[' :: t)) = none
      rw [tag?_bracket] at h ⊢
      rw [List.dropWhile_append]
      cases hrest : s.dropWhile (fun d => d != '[' && d != ']') with
      | nil => rfl
      | cons e rest =>
        rw [hrest] at h
        by_cases hclose : e = ']'
        · subst hclose
          have hopens : opensTag d = false := by simpa using h
          simp [hopens]
        · simp [hclose]
  · exact tag?_cons_of_ne hc hopen _

/-- The pieces of a text in which no tag stands: one run of characters, or none. -/
def runOf (s : List Char) : List Piece := if s = [] then [] else [.run s]

/-- A text in which no tag stands is a run before the pieces of what follows, if that is a tag or nothing. -/
theorem pieces_append_of_untagged {t : List Char} (h : ∀ body, IsBody body → ¬ TagIn body s) (hbackslash : '\\' ∉ s)
    (ht : t = [] ∨ ∃ rest body others, t = '[' :: rest ∧ pieces t = .tag body :: others) :
    pieces (s ++ t) = runOf s ++ pieces t := by
  -- Each character is put before the run of those behind it.
  induction s with
  | nil => rfl
  | cons c rest ih =>
    have hrest : ∀ body, IsBody body → ¬ TagIn body rest := fun body hbody hin =>
      h body hbody (hin.trans (List.suffix_cons c rest).isInfix)
    have hc : c ≠ '\\' := fun heq => hbackslash (heq ▸ List.mem_cons_self)
    have hnone : tag? (c :: rest ++ t) = none := by
      rcases ht with rfl | ⟨tail, -, -, rfl, -⟩
      · rw [List.append_nil]
        exact tag?_of_untagged h
      · exact tag?_append_bracket (tag?_of_untagged h) hc
    have hcons : pieces (c :: rest ++ t) = consRun c (pieces (rest ++ t)) := by
      rw [pieces.eq_def]
      split
      · rename_i htag
        cases hnone.symm.trans htag
      · rfl
    rw [hcons, ih hrest fun hmem => hbackslash (List.mem_cons_of_mem _ hmem)]
    cases rest with
    | nil =>
      rcases ht with rfl | ⟨tail, body, others, -, hpieces⟩
      · simp [runOf, pieces.eq_def [], tag?, consRun]
      · simp [runOf, hpieces, consRun]
    | cons d rest => simp [runOf, consRun]

/-- A tag is a piece of its own. -/
theorem pieces_tag (h : IsBody body) (t : List Char) :
    pieces ('[' :: body ++ ']' :: t) = .tag body :: pieces t := by
  obtain ⟨c, rest, rfl, hopens, hopen, hclose⟩ := h
  have hbody : ∀ d ∈ rest, (d != '[' && d != ']') = true := by
    intro d hd
    have hne : d ≠ '[' ∧ d ≠ ']' := ⟨fun heq => hopen (heq ▸ hd), fun heq => hclose (heq ▸ hd)⟩
    simpa using hne
  have htake : (rest ++ ']' :: t).takeWhile (fun d => d != '[' && d != ']') = rest := by
    rw [List.takeWhile_append_of_pos hbody]
    simp
  have hdrop : (rest ++ ']' :: t).dropWhile (fun d => d != '[' && d != ']') = ']' :: t := by
    rw [List.dropWhile_append_of_pos hbody]
    simp
  have htag : tag? ('[' :: c :: rest ++ ']' :: t) = some (0, c :: rest, t) := by
    simp [tag?, htake, hdrop, hopens]
  rw [pieces.eq_def]
  split
  · rename_i heq
    cases heq.symm.trans htag
    rfl
  · rename_i heq
    cases heq.symm.trans htag

theorem unescape_of_backslash_not_mem (h : '\\' ∉ s) : unescape s = s := by
  fun_induction unescape s with
  | case1 => simp at h
  | case2 c rest _ ih => rw [ih fun hmem => h (List.mem_cons_of_mem _ hmem)]
  | case3 => rfl

/-- What is shown of a bare text and of the pieces behind it, whatever tags are open. -/
theorem plainOf_runOf (h : Bare Pictograph.IsName s) (hbackslash : '\\' ∉ s) (opened : List (List Char))
    (ps : List Piece) : plainOf opened (runOf s ++ ps) = (plainOf opened ps).map (s ++ ·) := by
  unfold runOf
  split
  · rename_i hs
    subst hs
    rw [List.nil_append]
    cases plainOf opened ps <;> rfl
  · have hshown : shown s = s := by
      rw [shown, unescape_of_backslash_not_mem hbackslash, Pictograph.replace_of_unnamed h.unnamed]
    rw [List.singleton_append, plainOf, hshown]

/-- What is shown of a bare text alone. -/
theorem plainOf_of_bare (h : Bare Pictograph.IsName s) (hbackslash : '\\' ∉ s) (opened : List (List Char)) :
    plainOf opened (pieces s) = .ok s := by
  have hnil : pieces [] = [] := by simp [pieces.eq_def [], tag?]
  have hpieces := pieces_append_of_untagged h.untagged hbackslash (.inl rfl)
  rw [List.append_nil, hnil] at hpieces
  rw [hpieces, plainOf_runOf h hbackslash, plainOf, Except.map, List.append_nil]

/-- A bare text without backslashes is shown as it is. -/
theorem plain_of_bare (h : Bare Pictograph.IsName s) (hbackslash : '\\' ∉ s) : plain s = .ok s :=
  plainOf_of_bare h hbackslash []

/-! ### One tag between bare texts -/

/-- The name of a tag begins as the tag does. -/
theorem eq_slash_of_nameOf {c : Char} {rest name : List Char} (h : nameOf (c :: rest) = '/' :: name) : c = '/' := by
  rw [nameOf, cutFirst?] at h
  split at h
  · cases h
  · cases hcut : cutFirst? '=' rest <;> simp [hcut] at h <;> exact h.1

section Between

variable {before after : List Char} (hbefore : Bare Pictograph.IsName before) (hbackslash : '\\' ∉ before)

include hbefore hbackslash

theorem plain_append_tag (hbody : IsBody body) (t : List Char) :
    plain (before ++ ('[' :: body ++ ']' :: t)) = (plainOf [] (.tag body :: pieces t)).map (before ++ ·) := by
  have hpieces : pieces (before ++ ('[' :: body ++ ']' :: t)) = runOf before ++ pieces ('[' :: body ++ ']' :: t) :=
    pieces_append_of_untagged hbefore.untagged hbackslash (.inr ⟨_, body, _, rfl, pieces_tag hbody t⟩)
  rw [plain, hpieces, pieces_tag hbody, plainOf_runOf hbefore hbackslash]

/-- A tag that closes nothing is gone. -/
theorem plain_of_opening (hafter : Bare Pictograph.IsName after) (hbackslash' : '\\' ∉ after) (hbody : IsBody body)
    (hslash : ∀ name, body ≠ '/' :: name) :
    plain (before ++ ('[' :: body ++ ']' :: after)) = .ok (before ++ after) := by
  have hname : ∀ name, nameOf body ≠ '/' :: name := by
    intro name heq
    obtain ⟨c, rest, rfl, -⟩ := hbody
    cases eq_slash_of_nameOf heq
    exact hslash rest rfl
  rw [plain_append_tag hbefore hbackslash hbody, plainOf]
  split
  · rename_i name heq
    exact absurd heq (hname name)
  · rw [plainOf_of_bare hafter hbackslash']
    rfl

/-- A tag that closes another is a fault, for none is open. -/
theorem exists_plain_eq_error {name : List Char} (hopen : '[' ∉ name) (hclose : ']' ∉ name) (t : List Char) :
    ∃ cause, plain (before ++ ('[' :: '/' :: name ++ ']' :: t)) = .error cause := by
  have hbody : IsBody ('/' :: name) := ⟨'/', name, rfl, rfl, hopen, hclose⟩
  obtain ⟨closed, hclosed⟩ : ∃ closed, nameOf ('/' :: name) = '/' :: closed := by
    rw [nameOf, cutFirst?, if_neg (by decide)]
    cases cutFirst? '=' name with
    | none => exact ⟨name, rfl⟩
    | some cut => exact ⟨cut.1, rfl⟩
  have hfault : ∃ cause, close closed [] = .error cause := by
    unfold close
    dsimp only
    split
    · exact ⟨_, rfl⟩
    · exact ⟨_, if_neg List.not_mem_nil⟩
  obtain ⟨cause, hcause⟩ := hfault
  refine ⟨cause, ?_⟩
  rw [plain_append_tag hbefore hbackslash hbody, plainOf, hclosed]
  show ((close closed []).bind (plainOf · (pieces t))).map (before ++ ·) = .error cause
  rw [hcause]
  rfl

end Between

/-! ### Texts without closing tags -/

/-- A text in which no tag closes another. -/
def ClosesNothing (s : List Char) : Prop :=
  ∀ name, '[' ∉ name → ']' ∉ name → ¬ TagIn ('/' :: name) s

/-- Pieces can be shown if no tag among them is a closing one. -/
theorem exists_plainOf {ps : List Piece} (h : ∀ body, .tag body ∈ ps → ∀ name, nameOf body ≠ '/' :: name)
    (opened : List (List Char)) : ∃ shown, plainOf opened ps = .ok shown := by
  induction ps generalizing opened with
  | nil => exact ⟨[], rfl⟩
  | cons p rest ih =>
    have hrest := ih fun body hmem => h body (List.mem_cons_of_mem _ hmem)
    cases p with
    | run s =>
      obtain ⟨others, hothers⟩ := hrest opened
      exact ⟨shown s ++ others, by rw [plainOf, hothers, Except.map]⟩
    | literal s =>
      obtain ⟨others, hothers⟩ := hrest opened
      exact ⟨shown s ++ others, by rw [plainOf, hothers, Except.map]⟩
    | tag body =>
      rw [plainOf]
      split
      · rename_i name hname
        exact absurd hname (h body List.mem_cons_self name)
      · exact hrest _

/-- A text without closing tags can be shown. -/
theorem exists_plain_of_closesNothing (h : ClosesNothing s) : ∃ shown, plain s = .ok shown := by
  refine exists_plainOf (fun body hmem name hname => ?_) []
  obtain ⟨⟨c, rest, rfl, -, hopen, hclose⟩, hin⟩ := exists_of_tag_mem hmem
  cases eq_slash_of_nameOf hname
  exact h rest hopen hclose hin

end Markup

end ModuleReach
