import ModuleReach.Text.Hex
import ModuleReach.Text.Split
import ModuleReach.Yaml.Cursor

/-!
# Tags

A tag says what sort of value a node stands for.  A plain scalar without a tag gets the one that its spelling suggests: a word for
nothing or for a truth value, a number, a date, one of two signs with a meaning in mappings, and otherwise a text.

## Main definitions

* `Yaml.Tag` — the sorts of value; `Yaml.Tag.ofName` finds them by their names.
* `Yaml.Tag.ofPlain` — the sort that the spelling of a plain scalar suggests.
-/

namespace ModuleReach.Yaml

/-- What sort of value a node stands for. -/
inductive Tag
  | null
  | bool
  | int
  | float
  | binary
  | timestamp
  /-- An ordered mapping. -/
  | omap
  /-- A list of pairs. -/
  | pairs
  | set
  | str
  | seq
  | map
  /-- The key under which a mapping takes over the entries of others. -/
  | merge
  /-- The key for the one value of a mapping that counts. -/
  | default
  /-- Any other sort, for which there is no value. -/
  | other (name : String)
  deriving DecidableEq, Repr

namespace Tag

/-- The beginning of the names of the common sorts. -/
def commonName : String := "tag:yaml.org,2002:"

/-- The common sorts by the rest of their names. -/
def common : List (String × Tag) :=
  [("null", null), ("bool", bool), ("int", int), ("float", float), ("binary", binary),
   ("timestamp", timestamp), ("omap", omap), ("pairs", pairs), ("set", set), ("str", str),
   ("seq", seq), ("map", map), ("merge", merge), ("value", default)]

/-- The sort with a name. -/
def ofName (name : String) : Tag :=
  match common.find? fun t => commonName ++ t.1 == name with
  | some t => t.2
  | none => other name

/-! ### Spellings -/

/-- A text without a sign at its front. -/
def unsigned : List Char → List Char
  | '+' :: s => s
  | '-' :: s => s
  | s => s

/-- Whether a text is a digit of some sort and then only such digits and underscores. -/
def isDigits (isDigit : Char → Bool) : List Char → Bool
  | [] => false
  | c :: s => isDigit c && s.all fun d => isDigit d || d == '_'

/-- Whether a text consists of digits of some sort and underscores. -/
def isLoose (isDigit : Char → Bool) (s : List Char) : Bool :=
  !s.isEmpty && s.all fun d => isDigit d || d == '_'

/-- Whether a text is one or two digits below sixty. -/
def isSixtieth : List Char → Bool
  | [c] => c.isDigit
  | [c, d] => '0' ≤ c && c ≤ '5' && d.isDigit
  | _ => false

/-- Whether a text is a whole number: binary, octal, decimal or hexadecimal, or in sixties with colons. -/
def isInt (s : List Char) : Bool :=
  match unsigned s with
  | '0' :: 'b' :: s => isLoose (fun c => c == '0' || c == '1') s
  | '0' :: 'x' :: s => isLoose (fun c => (Text.hexValue? c).isSome) s
  | ['0'] => true
  | '0' :: s => isLoose (fun c => '0' ≤ c && c ≤ '7') s
  | s =>
    match Text.splitWhere (· == ':') s with
    | first :: rest => isDigits Char.isDigit first && rest.all isSixtieth
    | [] => false

/-- Whether a text is empty or an exponent, which has a sign. -/
def isExponent : List Char → Bool
  | [] => true
  | e :: sign :: s =>
    (e == 'e' || e == 'E') && (sign == '+' || sign == '-') && !s.isEmpty && s.all Char.isDigit
  | _ => false

/-- Whether a text is digits and underscores, and then perhaps an exponent. -/
def isFraction (s : List Char) : Bool :=
  isExponent (s.dropWhile fun c => c.isDigit || c == '_')

/-- Whether a text is a decimal number with a point, or one in sixties, or a word for an extreme. -/
def isFloat (s : List Char) : Bool :=
  let words := [".inf", ".Inf", ".INF"].map String.toList
  let bare := unsigned s
  words.contains bare || ([".nan", ".NaN", ".NAN"].map String.toList).contains s ||
    match s with
    | '.' :: c :: rest => c.isDigit && isFraction rest
    | _ =>
      match Text.cutFirst? '.' bare with
      | none => false
      | some (whole, fraction) =>
        match Text.splitWhere (· == ':') whole with
        | [first] => isDigits Char.isDigit first && isFraction fraction
        | first :: rest =>
          isDigits Char.isDigit first && rest.all isSixtieth &&
            fraction.all fun c => c.isDigit || c == '_'
        | [] => false

/-- The parts of a date, and of a time if there is one. -/
structure Moment where
  year : Nat
  month : Nat
  day : Nat
  /-- Hour, minute and second. -/
  time : Option (Nat × Nat × Nat)
  /-- The distance from the prime meridian in minutes, if it is given with a sign. -/
  offset : Option Int
  deriving DecidableEq, Repr

/-- The number that decimal digits give. -/
def decimal (digits : List Char) : Nat := digits.foldl (fun n d => 10 * n + (d.toNat - 0x30)) 0

/-- The number of between `least` and `most` digits at the front of a text, and what follows them. -/
def digitsAt? (least most : Nat) (s : List Char) : Option (Nat × List Char) :=
  let digits := (s.takeWhile Char.isDigit).take most
  if digits.length < least then none else some (decimal digits, s.drop digits.length)

/-- What follows a character at the front of a text. -/
def after? (c : Char) : List Char → Option (List Char)
  | d :: s => if d = c then some s else none
  | [] => none

/-- The distance from the prime meridian at the end of a time. -/
def zone? (s : List Char) : Option (Option Int) :=
  match s.dropWhile fun c => c == ' ' || c == '\t' with
  | [] => if s.isEmpty then some none else none
  | ['Z'] => some none
  | sign :: rest =>
    if sign = '+' ∨ sign = '-' then do
      let (hours, rest) ← digitsAt? 1 2 rest
      let minutes ←
        match rest with
        | [] => some 0
        | ':' :: rest => do
          let (minutes, rest) ← digitsAt? 2 2 rest
          if rest.isEmpty then some minutes else none
        | _ => none
      let distance : Int := (60 * hours + minutes : Nat)
      some (some (if sign = '-' then -distance else distance))
    else none

/-- The time and zone after a date. -/
def time? (s : List Char) : Option ((Nat × Nat × Nat) × Option Int) := do
  let s ←
    match s with
    | 'T' :: s => some s
    | 't' :: s => some s
    | c :: s =>
      if c = ' ' ∨ c = '\t' then some (s.dropWhile fun c => c == ' ' || c == '\t') else none
    | [] => none
  let (hour, s) ← digitsAt? 1 2 s
  let (minute, s) ← digitsAt? 2 2 (← after? ':' s)
  let (second, s) ← digitsAt? 2 2 (← after? ':' s)
  let s :=
    match s with
    | '.' :: s => s.dropWhile Char.isDigit
    | s => s
  some ((hour, minute, second), ← zone? s)

/-- The moment that a text spells.  A date without a time has two digits for the month and the day if `strict`. -/
def moment? (strict : Bool) (s : List Char) : Option Moment := do
  let (year, s) ← digitsAt? 4 4 s
  let afterYear ← after? '-' s
  let (month, s) ← digitsAt? 1 2 afterYear
  let (day, rest) ← digitsAt? 1 2 (← after? '-' s)
  if rest.isEmpty then
    if strict && afterYear.length ≠ 5 then none else some ⟨year, month, day, none, none⟩
  else do
    let (time, offset) ← time? rest
    some ⟨year, month, day, some time, offset⟩

/-- The words for nothing. -/
def nullWords : List String := ["", "~", "null", "Null", "NULL"]

/-- The words for a truth value, each in lower case. -/
def boolWords : List String := ["yes", "no", "true", "false", "on", "off"]

/-- Whether a text is a word for a truth value in lower case, in upper case, or with a capital. -/
def isBool (s : String) : Bool :=
  boolWords.any fun w => s == w || s == w.toUpper || s == w.capitalize

/-- A text without the line break at its end, unless it is nothing else.  That break is no part of a spelling. -/
def withoutFinalBreak (s : List Char) : List Char :=
  if s.getLast? = some '\n' ∧ s ≠ ['\n'] then s.dropLast else s

/-- The sort that the spelling of a plain scalar suggests. -/
def ofPlain (s : String) : Tag :=
  if isBool s then bool
  else if isFloat s.toList then float
  else if isInt s.toList then int
  else if s == "<<" then merge
  else if nullWords.contains s then null
  else if (moment? true s.toList).isSome then timestamp
  else if s == "=" then default
  else str

end Tag

end ModuleReach.Yaml
