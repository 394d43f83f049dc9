import ModuleReach.Json.Basic
import ModuleReach.Text.Hex

/-!
# Reading JSON

A text is read as one value with nothing but blanks around it.  Blanks are the space, the tab and the two line breaks.  Three
things go beyond the standard grammar: the words `NaN`, `Infinity` and `-Infinity` are numbers.  One thing stays
below it: an integer of more than 4300 digits is refused.

The reader gets into an array or an object by calling itself, and a machine that runs it can follow only so many calls.
`Json.read?` knows no such limit.  `Json.depth` says how deep the reader gets, so that whoever reads under a limit can
compare the two; a manifest is read in this way.

The texts here are sequences of characters, and half of a surrogate pair is none.  An escape for such a half without the
other half is read as the replacement character, so that two names that differ in such escapes only fall together.

Every function takes the rest of the text and gives back a value with what follows it.  Values nest at most as
deep as the text is long, which bounds the recursion.

## Main definitions

* `Json.Reader.chars` — the characters of a string after its opening quote.
* `Json.Reader.number` — a number as it is written.
* `Json.read?` — the value that a text stands for.
* `Json.depth` — how many arrays and objects the reader is in at once.
-/

namespace ModuleReach.Json

namespace Reader

/-- The blanks of the format. -/
def isBlank (c : Char) : Bool := c == ' ' || c == '\t' || c == '\n' || c == '\r'

/-- A text without the blanks at its front. -/
def skip (s : List Char) : List Char := s.dropWhile isBlank

/-! ### Strings -/

/-- The number written with four hexadecimal digits. -/
def unit? (a b c d : Char) : Option Nat :=
  match Text.hexValue? a, Text.hexValue? b, Text.hexValue? c, Text.hexValue? d with
  | some a, some b, some c, some d => some (((a * 16 + b) * 16 + c) * 16 + d)
  | _, _, _, _ => none

/-- Whether a number is the first half of a pair that encodes one character. -/
def isHigh (n : Nat) : Bool := 0xD800 ≤ n && n < 0xDC00

/-- Whether a number is the second half of a pair that encodes one character. -/
def isLow (n : Nat) : Bool := 0xDC00 ≤ n && n < 0xE000

/-- The character with a number; half a pair is no character, and the replacement character stands for it. -/
def single (n : Nat) : Char := if isHigh n || isLow n then Char.ofNat 0xFFFD else Char.ofNat n

/-- The character that a pair of halves encodes. -/
def paired (high low : Nat) : Char :=
  Char.ofNat (0x10000 + (high - 0xD800) * 0x400 + (low - 0xDC00))

/-- The characters that a sequence of numbers encodes.  Halves come only from escapes. -/
def combine : List Nat → List Char
  | [] => []
  | [n] => [single n]
  | n :: m :: rest =>
    if isHigh n && isLow m then paired n m :: combine rest else single n :: combine (m :: rest)

/-- The character that a letter after a backslash stands for. -/
def escape? : Char → Option Char
  | '"' => some '"'
  | '\\' => some '\\'
  | '/' => some '/'
  | 'b' => some '\x08'
  | 'f' => some '\x0c'
  | 'n' => some '\n'
  | 'r' => some '\r'
  | 't' => some '\t'
  | _ => none

/-- A number put before the result of reading what follows it. -/
def before (n : Nat) (result : Option (List Nat × List Char)) : Option (List Nat × List Char) :=
  result.map fun r => (n :: r.1, r.2)

/-- The numbers of the characters and escapes of a string after its opening quote, and what follows its closing
quote. -/
def units : List Char → Option (List Nat × List Char)
  | [] => none
  | '"' :: rest => some ([], rest)
  | '\\' :: 'u' :: a :: b :: c :: d :: rest =>
    match unit? a b c d with
    | some n => before n (units rest)
    | none => none
  | '\\' :: e :: rest =>
    match escape? e with
    | some c => before c.toNat (units rest)
    | none => none
  | c :: rest => if c < ' ' ∨ c = '\\' then none else before c.toNat (units rest)

/-- The characters of a string after its opening quote, and what follows its closing quote. -/
def chars (s : List Char) : Option (List Char × List Char) :=
  (units s).map fun r => (combine r.1, r.2)

/-! ### Numbers -/

/-- The digits at the front of a text, and the rest. -/
def digits (s : List Char) : List Char × List Char :=
  (s.takeWhile Char.isDigit, s.dropWhile Char.isDigit)

/-- The whole part of a number without its sign: a zero, or digits of which the first is no zero. -/
def whole : List Char → Option (List Char × List Char)
  | [] => none
  | c :: rest =>
    if c = '0' then some (['0'], rest)
    else if c.isDigit then some (digits (c :: rest))
    else none

/-- The fraction at the front of a text with its point; empty if no digit follows the point. -/
def fraction : List Char → List Char × List Char
  | '.' :: rest => if (digits rest).1 = [] then ([], '.' :: rest) else ('.' :: (digits rest).1, (digits rest).2)
  | s => ([], s)

/-- The exponent at the front of a text with its letter and sign; empty if it has no digit. -/
def exponent (s : List Char) : List Char × List Char :=
  match s with
  | e :: rest =>
    if e = 'e' ∨ e = 'E' then
      let (sign, rest) : List Char × List Char :=
        match rest with
        | '+' :: rest => (['+'], rest)
        | '-' :: rest => (['-'], rest)
        | rest => ([], rest)
      if (digits rest).1 = [] then ([], s) else (e :: sign ++ (digits rest).1, (digits rest).2)
    else ([], s)
  | [] => ([], [])

/-- The most digits that an integer may have. -/
def integerLimit : Nat := 4300

/-- A number as it is written, and what follows it. -/
def number (s : List Char) : Option (List Char × List Char) :=
  let (sign, rest) : List Char × List Char :=
    match s with
    | '-' :: rest => (['-'], rest)
    | rest => ([], rest)
  match whole rest with
  | none => none
  | some (integer, rest) =>
    let (fractionPart, rest) := fraction rest
    let (exponentPart, rest) := exponent rest
    if fractionPart = [] ∧ exponentPart = [] ∧ integerLimit < integer.length then none
    else some (sign ++ integer ++ fractionPart ++ exponentPart, rest)

/-- The words that stand for a value, each with its value. -/
def words : List (String × Json) :=
  [("null", .null), ("true", .bool true), ("false", .bool false), ("NaN", .number "NaN"),
   ("Infinity", .number "Infinity"), ("-Infinity", .number "-Infinity")]

/-- The value of the word at the front of a text, and what follows it. -/
def word? (s : List Char) : Option (Json × List Char) :=
  (words.find? fun w => w.1.toList.isPrefixOf s).map fun w => (w.2, s.drop w.1.length)

/-- The word or number at the front of a text, and what follows it. -/
def atom (s : List Char) : Option (Json × List Char) :=
  match word? s with
  | some found => some found
  | none => (number s).map fun r => (.number (String.ofList r.1), r.2)

/-! ### Values -/

mutual

/-- The value at the front of a text, and what follows it. -/
def value : Nat → List Char → Option (Json × List Char)
  | 0, _ => none
  | n + 1, s =>
    match s with
    | '"' :: rest => (chars rest).map fun r => (.string (String.ofList r.1), r.2)
    | '[' :: rest =>
      match skip rest with
      | ']' :: rest => some (.array [], rest)
      | rest => (items n rest).map fun r => (.array r.1, r.2)
    | '\x7b' :: rest =>
      match skip rest with
      | '\x7d' :: rest => some (.object [], rest)
      | rest => (fields n rest).map fun r => (ofFields r.1, r.2)
    | s => atom s

/-- The items of an array up to its closing bracket. -/
def items : Nat → List Char → Option (List Json × List Char)
  | 0, _ => none
  | n + 1, s =>
    match value n s with
    | none => none
    | some (first, rest) =>
      match skip rest with
      | ']' :: rest => some ([first], rest)
      | ',' :: rest => (items n (skip rest)).map fun r => (first :: r.1, r.2)
      | _ => none

/-- The fields of an object up to its closing brace. -/
def fields : Nat → List Char → Option (List (String × Json) × List Char)
  | 0, _ => none
  | n + 1, s =>
    match s with
    | '"' :: rest =>
      match chars rest with
      | none => none
      | some (name, rest) =>
        match skip rest with
        | ':' :: rest =>
          match value n (skip rest) with
          | none => none
          | some (first, rest) =>
            match skip rest with
            | '\x7d' :: rest => some ([(String.ofList name, first)], rest)
            | ',' :: rest =>
              (fields n (skip rest)).map fun r => ((String.ofList name, first) :: r.1, r.2)
            | _ => none
        | _ => none
    | _ => none

end

/-! ### Nesting -/

/-- What stands behind the comma that separates two parts. -/
def behindComma? (s : List Char) : Option (List Char) :=
  match skip s with
  | ',' :: rest => some (skip rest)
  | _ => none

mutual

/-- How many arrays and objects the reader is in at once while it reads the value at the front of a text, be there one
or not. -/
def valueDepth : Nat → List Char → Nat
  | 0, _ => 0
  | n + 1, s =>
    match s with
    | '[' :: rest =>
      match skip rest with
      | ']' :: _ => 1
      | rest => itemsDepth n rest + 1
    | '\x7b' :: rest =>
      match skip rest with
      | '\x7d' :: _ => 1
      | rest => fieldsDepth n rest + 1
    | _ => 0

/-- The same for the items of an array. -/
def itemsDepth : Nat → List Char → Nat
  | 0, _ => 0
  | n + 1, s =>
    max (valueDepth n s)
      (match (value n s).bind fun r => behindComma? r.2 with
        | some rest => itemsDepth n rest
        | none => 0)

/-- The same for the fields of an object. -/
def fieldsDepth : Nat → List Char → Nat
  | 0, _ => 0
  | n + 1, s =>
    match s with
    | '"' :: rest =>
      match (chars rest).map fun r => skip r.2 with
      | some (':' :: rest) =>
        max (valueDepth n (skip rest))
          (match (value n (skip rest)).bind fun r => behindComma? r.2 with
            | some rest => fieldsDepth n rest
            | none => 0)
      | _ => 0
    | _ => 0

end

end Reader

/-- The value that a text stands for. -/
def read? (s : List Char) : Option Json :=
  match Reader.value (s.length + 1) (Reader.skip s) with
  | some (v, rest) => if Reader.skip rest = [] then some v else none
  | none => none

/-- How many arrays and objects the reader is in at once while it reads a text, up to the place where it ends or gives
up. -/
def depth (s : List Char) : Nat := Reader.valueDepth (2 * s.length) (Reader.skip s)

end ModuleReach.Json
