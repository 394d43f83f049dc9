/-!
# Cutting texts apart

Splitting at separator characters, cutting at the first or last occurrence of a character, and putting
pieces back together.

## Main definitions

* `Text.splitWhere` — the pieces between separators; there is one more piece than separators.
* `Text.joinWith` — pieces with a separator between neighbours.
* `Text.cutFirst?` — the texts around the first occurrence of a character.
* `Text.replaceChar` — every occurrence of a character replaced by a text.

## Main results

* `Text.joinWith_splitWhere` — joining the pieces with the one separator gives back the text.
-/

namespace ModuleReach.Text

/-- The pieces of a text between the characters that satisfy `p`, empty pieces included. -/
def splitWhere (p : Char → Bool) : List Char → List (List Char)
  | [] => [[]]
  | c :: rest =>
    if p c then [] :: splitWhere p rest else (splitWhere p rest).modifyHead (c :: ·)

/-- The pieces in order, with `separator` between neighbours. -/
def joinWith (separator : List Char) : List (List Char) → List Char
  | [] => []
  | [piece] => piece
  | piece :: next :: rest => piece ++ separator ++ joinWith separator (next :: rest)

/-- The texts before and after the first occurrence of a character. -/
def cutFirst? (mark : Char) : List Char → Option (List Char × List Char)
  | [] => none
  | c :: rest =>
    if c = mark then some ([], rest)
    else (cutFirst? mark rest).map fun cut => (c :: cut.1, cut.2)

/-- A text with every occurrence of `mark` replaced by `piece`. -/
def replaceChar (mark : Char) (piece : List Char) (s : List Char) : List Char :=
  s.flatMap fun c => if c = mark then piece else [c]

@[simp] theorem splitWhere_nil (p : Char → Bool) : splitWhere p [] = [[]] := rfl

theorem splitWhere_ne_nil (p : Char → Bool) (s : List Char) : splitWhere p s ≠ [] := by
  induction s with
  | nil => simp
  | cons c rest ih =>
    unfold splitWhere
    split
    · simp
    · cases h : splitWhere p rest with
      | nil => exact absurd h ih
      | cons piece pieces => simp

/-- No piece of a split holds a separator. -/
theorem not_of_mem_splitWhere {p : Char → Bool} {s piece : List Char}
    (h : piece ∈ splitWhere p s) : ∀ c ∈ piece, p c = false := by
  induction s generalizing piece with
  | nil => simp_all
  | cons d rest ih =>
    unfold splitWhere at h
    split at h
    · rcases List.mem_cons.1 h with rfl | h
      · simp
      · exact ih h
    · rename_i hd
      cases hs : splitWhere p rest with
      | nil => exact absurd hs (splitWhere_ne_nil p rest)
      | cons first others =>
        rw [hs] at h ih
        simp only [List.modifyHead_cons, List.mem_cons] at h
        rcases h with rfl | h
        · intro c hc
          rcases List.mem_cons.1 hc with rfl | hc
          · simpa using hd
          · exact ih (List.mem_cons_self ..) c hc
        · exact ih (List.mem_cons_of_mem _ h)

/-- Joining the pieces between occurrences of one separator gives back the text. -/
theorem joinWith_splitWhere (mark : Char) (s : List Char) :
    joinWith [mark] (splitWhere (· == mark) s) = s := by
  induction s with
  | nil => rfl
  | cons c rest ih =>
    unfold splitWhere
    cases hs : splitWhere (· == mark) rest with
    | nil => exact absurd hs (splitWhere_ne_nil _ rest)
    | cons first others =>
      rw [hs] at ih
      by_cases hc : c = mark
      · simp [hc, joinWith, ih]
      · cases others <;> simp_all [joinWith]

end ModuleReach.Text
