import ModuleReach.Text.Split

/-!
# Store paths

A store keeps files under *canonical* paths: they begin with `/`, their segments are neither empty nor `.` nor
`..`, and no backslash occurs.  Any text names a canonical path: slashes and backslashes both separate
segments, `.` stays, and `..` drops the segment before it but never climbs above the root.

The other functions work on a path as text and leave it as it is.

## Main definitions

* `Path.normalize` — the canonical path that a text names.
* `Path.join` — a path read relative to a directory.
* `Path.directory`, `Path.name`, `Path.extension` — the parts of a path.
* `Path.tidy` — a path without the segments that stay where they are.
* `Path.ancestors` — a directory and all directories above it, up to the root.

## Main results

* `Path.mem_canonical` — a segment of a canonical path is an ordinary name.
-/

namespace ModuleReach.Path

open Text

/-! ### Canonical form -/

/-- Whether a character separates path segments. -/
def isSeparator (c : Char) : Bool := c == '/' || c == '\\'

/-- One segment more on a path whose segments are given deepest first. -/
def descend (stack : List (List Char)) (segment : List Char) : List (List Char) :=
  if segment = [] ∨ segment = ['.'] then stack
  else if segment = ['.', '.'] then stack.tail
  else segment :: stack

/-- The segments of the canonical path that a text names, deepest first. -/
def stackOf (s : List Char) : List (List Char) := (splitWhere isSeparator s).foldl descend []

/-- The segments of the canonical path that a text names, from the root down. -/
def canonical (s : List Char) : List (List Char) := (stackOf s).reverse

/-- A canonical path as text: each segment after a slash, and one slash for the root. -/
def render : List (List Char) → List Char
  | [] => ['/']
  | segments => segments.flatMap ('/' :: ·)

/-- The canonical path that a text names. -/
def normalize (path : String) : String := String.ofList (render (canonical path.toList))

/-- A name that can stand between two slashes of a canonical path. -/
def IsSegment (s : List Char) : Prop :=
  s ≠ [] ∧ s ≠ ['.'] ∧ s ≠ ['.', '.'] ∧ ∀ c ∈ s, isSeparator c = false

theorem mem_descend {stack : List (List Char)} {segment s : List Char}
    (hstack : ∀ t ∈ stack, IsSegment t) (hsegment : ∀ c ∈ segment, isSeparator c = false)
    (h : s ∈ descend stack segment) : IsSegment s := by
  unfold descend at h
  split at h
  · exact hstack s h
  · split at h
    · exact hstack s (List.mem_of_mem_tail h)
    · rcases List.mem_cons.1 h with rfl | h
      · simp_all [IsSegment]
      · exact hstack s h

/-- A segment of a canonical path is an ordinary name. -/
theorem mem_canonical {text s : List Char} (h : s ∈ canonical text) : IsSegment s := by
  have grow : ∀ (segments stack : List (List Char)), (∀ t ∈ stack, IsSegment t) →
      (∀ t ∈ segments, ∀ c ∈ t, isSeparator c = false) →
      ∀ s ∈ segments.foldl descend stack, IsSegment s := by
    intro segments
    induction segments with
    | nil => intro stack hstack _ s hs; exact hstack s hs
    | cons segment segments ih =>
      intro stack hstack hall
      exact ih _ (fun t ht => mem_descend hstack (hall segment (by simp)) ht)
        (fun t ht => hall t (by simp [ht]))
  exact grow _ _ (by simp) (fun t ht => not_of_mem_splitWhere ht) s (List.mem_reverse.1 h)

/-! ### Parts of a path -/

/-- A path read relative to a directory: an absolute one stands for itself, and a slash goes between
the two unless the directory is empty or ends in one. -/
def joinChars (base path : List Char) : List Char :=
  if path.head? = some '/' then path
  else if base = [] ∨ base.getLast? = some '/' then base ++ path
  else base ++ '/' :: path

/-- A path read relative to a directory. -/
def join (base path : String) : String := String.ofList (joinChars base.toList path.toList)

/-- What follows the last slash. -/
def nameChars (path : List Char) : List Char := (path.reverse.takeWhile (· != '/')).reverse

/-- What follows the last slash of a path. -/
def name (path : String) : String := String.ofList (nameChars path.toList)

/-- What precedes the last slash of a path, without the slashes at its end; the slashes stay if
there is nothing else. -/
def directory (path : String) : String :=
  let head := path.toList.reverse.dropWhile (· != '/')
  let bare := head.dropWhile (· == '/')
  String.ofList (if bare = [] then head.reverse else bare.reverse)

/-- The extension of a path's name with its dot, or the empty text.  Dots at the front of the name
begin no extension. -/
def extension (path : String) : String :=
  let base := (nameChars path.toList).dropWhile (· == '.')
  let tail := (base.reverse.takeWhile (· != '.')).reverse
  if '.' ∈ base then String.ofList ('.' :: tail) else ""

/-- A path without the segments that are empty or `.`; the slashes at its front stay, as one or as two of
them. -/
def tidy (path : String) : String :=
  let front :=
    match path.toList with
    | '/' :: '/' :: '/' :: _ => ['/']
    | '/' :: '/' :: _ => ['/', '/']
    | '/' :: _ => ['/']
    | _ => []
  let segments := (splitWhere (· == '/') path.toList).filter fun s => s ≠ [] ∧ s ≠ ['.']
  if front = [] ∧ segments = [] then "." else String.ofList (front ++ joinWith ['/'] segments)

/-! ### Ancestors -/

/-- A path and every path above it, with segments given deepest first. -/
def climb : List (List Char) → List (List (List Char))
  | [] => [[]]
  | segment :: above => (segment :: above) :: climb above

@[simp] theorem length_climb (stack : List (List Char)) :
    (climb stack).length = stack.length + 1 := by
  induction stack with
  | nil => rfl
  | cons segment above ih => simp [climb, ih]

/-- The canonical form of a directory and of each directory above it, ending with the root. -/
def ancestors (path : String) : List String :=
  (climb (stackOf path.toList)).map fun stack => String.ofList (render stack.reverse)

end ModuleReach.Path
