import ModuleReach.Markup.Fault
import ModuleReach.Markup.Pictograph

/-!
# Markup

Text that is laid out may hold tags in brackets, which set how what follows is shown, and names of pictographs between colons.  A
tag begins with a lower-case letter or one of `#`, `/` and `@`; brackets around anything else are ordinary text, and so is a tag with
a backslash before it.  A tag that begins with `/` closes the last open tag of its name, or the last open tag of any name if it
gives none.  Tags that are never closed do no harm.

The look of a text is of no interest here, so that what remains of a tag is that it is gone.  Nor is it looked at to tell which
names mean the same: but for the short names and the case of letters, a tag is closed by the name with which it was opened.

## Main definitions

* `Markup.Piece`, `Markup.pieces` — a text as runs of characters and tags.
* `Markup.plain` — the characters that are shown of a text.
-/

namespace ModuleReach.Markup

open Text

/-! ### Tags -/

/-- A run of characters, or a tag. -/
inductive Piece
  /-- Characters as they are written. -/
  | run (s : List Char)
  /-- Characters in place of a tag that was not meant as one, or of the backslashes before a tag. -/
  | literal (s : List Char)
  /-- What stands between the brackets of a tag. -/
  | tag (body : List Char)
  deriving DecidableEq, Repr

/-- Whether a tag can begin with a character. -/
def opensTag (c : Char) : Bool := ('a' ≤ c && c ≤ 'z') || c == '#' || c == '/' || c == '@'

/-- A tag at the front of a text: the number of backslashes before it, what stands between its brackets, and the rest. -/
def tag? (s : List Char) : Option (Nat × List Char × List Char) :=
  match s.dropWhile (· == '\\') with
  | '[' :: c :: rest =>
    let body := rest.takeWhile fun d => d != '[' && d != ']'
    match rest.dropWhile fun d => d != '[' && d != ']' with
    | ']' :: after =>
      if opensTag c then some ((s.takeWhile (· == '\\')).length, c :: body, after) else none
    | _ => none
  | _ => none

theorem length_dropWhile_le (p : Char → Bool) (s : List Char) :
    (s.dropWhile p).length ≤ s.length := (List.dropWhile_sublist p).length_le

theorem length_of_tag? {s body after : List Char} {n : Nat} (h : tag? s = some (n, body, after)) :
    after.length < s.length := by
  unfold tag? at h
  split at h
  · rename_i c rest hdrop
    simp only at h
    split at h
    · rename_i after' hafter
      split at h
      · cases h
        have h₁ := length_dropWhile_le (· == '\\') s
        have h₂ := length_dropWhile_le (fun d => d != '[' && d != ']') rest
        rw [hdrop] at h₁
        rw [hafter] at h₂
        simp only [List.length_cons] at h₁ h₂
        omega
      · cases h
    · cases h
  · cases h

/-- The pieces of a tag with some backslashes before it.  Two backslashes stand for one, and one that is left over makes the tag
ordinary text. -/
def tagPieces (backslashes : Nat) (body : List Char) : List Piece :=
  (if backslashes < 2 then [] else [.literal (List.replicate (backslashes / 2) '\\')]) ++
    [if backslashes % 2 = 0 then .tag body else .literal ('[' :: body ++ [']'])]

/-- One more character before the pieces of a text. -/
def consRun (c : Char) : List Piece → List Piece
  | .run s :: rest => .run (c :: s) :: rest
  | rest => .run [c] :: rest

/-- The pieces of a text. -/
def pieces (s : List Char) : List Piece :=
  match _h : tag? s with
  | some (backslashes, body, after) => tagPieces backslashes body ++ pieces after
  | none =>
    match s with
    | [] => []
    | c :: rest => consRun c (pieces rest)
termination_by s.length
decreasing_by
  · exact length_of_tag? _h
  · simp

/-! ### What is shown -/

/-- The short names of the looks that letters can have. -/
def shortNames : List (String × String) :=
  [("b", "bold"), ("d", "dim"), ("i", "italic"), ("u", "underline"), ("r", "reverse"), ("c", "conceal"),
   ("s", "strike"), ("uu", "underline2"), ("o", "overline")]

/-- The name that a tag goes by, in full and in lower case. -/
def canonicalName (name : List Char) : List Char :=
  let name := (trimBlanks name).map Char.toLower
  ((shortNames.lookup (String.ofList name)).map String.toList).getD name

/-- What stands before the first `=` of a tag. -/
def nameOf (body : List Char) : List Char := ((cutFirst? '=' body).map Prod.fst).getD body

/-- The open tags after closing the last of a given name; the last comes first. -/
def close (name : List Char) (opened : List (List Char)) : Except Fault (List (List Char)) :=
  let name := trimBlanks name
  if name = [] then
    match opened with
    | [] => .error .nothingOpen
    | _ :: others => .ok others
  else if canonicalName name ∈ opened then .ok (opened.erase (canonicalName name))
  else .error (.notOpen name)

/-- A text in which brackets need no backslash. -/
def unescape : List Char → List Char
  | '\\' :: '[' :: rest => '[' :: unescape rest
  | c :: rest => c :: unescape rest
  | [] => []

/-- The characters of a piece that is no tag. -/
def shown (s : List Char) : List Char := Pictograph.replace (unescape s)

/-- The characters that are shown of some pieces, after the tags that are open before them. -/
def plainOf (opened : List (List Char)) : List Piece → Except Fault (List Char)
  | [] => .ok []
  | .run s :: rest => (plainOf opened rest).map (shown s ++ ·)
  | .literal s :: rest => (plainOf opened rest).map (shown s ++ ·)
  | .tag body :: rest =>
    match nameOf body with
    | '/' :: name => (close name opened).bind (plainOf · rest)
    | name => plainOf (canonicalName name :: opened) rest

/-- The characters that are shown of a text. -/
def plain (s : List Char) : Except Fault (List Char) := plainOf [] (pieces s)

end ModuleReach.Markup
