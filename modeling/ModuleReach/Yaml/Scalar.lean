import ModuleReach.Text.Blank
import ModuleReach.Yaml.Tag

/-!
# The values of scalars

A scalar that stands for a number, a truth value or a date must be spelled as one.  The value itself is of no interest here, only
whether there is one.  The digits of numbers are those of ASCII; the digits of other scripts do not count.

## Main definitions

* `Yaml.Scalar.fault?` — what is wrong with a scalar's text under a tag.
-/

namespace ModuleReach.Yaml.Scalar

/-! ### Numbers -/

/-- Whether a character is a digit in a base. -/
def isDigitIn (base : Nat) (c : Char) : Bool :=
  match Text.hexValue? c with
  | some v => v < base
  | none => false

/-- A text without the sign for its base, if it begins with one. -/
def withoutBase (base : Nat) (s : List Char) : List Char :=
  match s with
  | '0' :: letter :: rest =>
    if (base = 2 ∧ (letter = 'b' ∨ letter = 'B')) ∨ (base = 8 ∧ (letter = 'o' ∨ letter = 'O')) ∨
        (base = 16 ∧ (letter = 'x' ∨ letter = 'X')) then rest
    else s
  | s => s

/-- The most decimal digits that an integer may have. -/
def digitLimit : Nat := 4300

/-- What keeps a text from being an integer in a base: with blanks around it, a sign, and the sign for the
base. -/
def integerFault? (base : Nat) (s : List Char) : Option ScalarFault :=
  let digits := withoutBase base (Tag.unsigned (Text.trimBlanks s))
  if digits.isEmpty || !digits.all (isDigitIn base) then some (.notInteger base (String.ofList s))
  else if base = 10 ∧ digitLimit < digits.length then some (.tooManyDigits digits.length)
  else none

/-- The digits at the front of a text, and the rest. -/
def digits (s : List Char) : List Char × List Char :=
  (s.takeWhile Char.isDigit, s.dropWhile Char.isDigit)

/-- Whether a text is empty or an exponent. -/
def isExponent : List Char → Bool
  | [] => true
  | e :: s => (e == 'e' || e == 'E') && !(Tag.unsigned s).isEmpty && (Tag.unsigned s).all Char.isDigit

/-- Whether a text without a sign is a decimal number or a word for an extreme. -/
def isDecimal (s : List Char) : Bool :=
  let (whole, rest) := digits s
  ["inf", "infinity", "nan"].any (·.toList == s) ||
    match rest with
    | '.' :: rest =>
      let (fraction, rest) := digits rest
      !(whole.isEmpty && fraction.isEmpty) && isExponent rest
    | rest => !whole.isEmpty && isExponent rest

/-- What keeps a text from being a decimal number. -/
def floatFault? (s : List Char) : Option ScalarFault :=
  if isDecimal (Tag.unsigned (Text.trimBlanks s)) then none else some (.notFloat (String.ofList s))

/-- The first fault of the parts of a text between colons. -/
def partsFault? (fault? : List Char → Option ScalarFault) (s : List Char) : Option ScalarFault :=
  (Text.splitWhere (· == ':') s).findSome? fault?

/-- What keeps a text from being an integer.  Underscores do not count. -/
def intFault? (text : List Char) : Option ScalarFault :=
  let s := text.filter (· ≠ '_')
  let bare := Tag.unsigned s
  if bare.isEmpty then some .noDigits
  else if bare = ['0'] then none
  else
    match bare with
    | '0' :: 'b' :: rest => integerFault? 2 rest
    | '0' :: 'x' :: rest => integerFault? 16 rest
    | '0' :: _ => integerFault? 8 bare
    | _ => if ':' ∈ bare then partsFault? (integerFault? 10) bare else integerFault? 10 bare

/-- What keeps a text from being a decimal number.  Underscores and the case of letters do not count. -/
def numberFault? (text : List Char) : Option ScalarFault :=
  let s := (text.filter (· ≠ '_')).map Char.toLower
  let bare := Tag.unsigned s
  if s.isEmpty then some .noDigits
  else if bare = ".inf".toList ∨ bare = ".nan".toList then none
  else if ':' ∈ bare then partsFault? floatFault? bare
  else floatFault? bare

/-! ### Dates -/

/-- Whether a year has a day more. -/
def isLeap (year : Nat) : Bool := (year % 4 == 0 && year % 100 != 0) || year % 400 == 0

/-- The number of days in a month. -/
def daysIn (year month : Nat) : Nat :=
  if month = 2 then (if isLeap year then 29 else 28)
  else if month = 4 ∨ month = 6 ∨ month = 9 ∨ month = 11 then 30
  else 31

/-- A length of time in minutes, as it is shown: whole days, which may be negative, and then seconds. -/
def durationText (minutes : Int) : String :=
  let days := minutes / 1440
  let seconds := (minutes % 1440) * 60
  "datetime.timedelta(days=" ++ toString days ++
    (if seconds = 0 then "" else ", seconds=" ++ toString seconds) ++ ")"

/-- What keeps a moment from being on the calendar. -/
def calendarReason? (m : Tag.Moment) : Option String :=
  if m.offset.any fun minutes => 1440 ≤ minutes.natAbs then
    some ("offset must be a timedelta strictly between -timedelta(hours=24) and timedelta(hours=24), not " ++
      durationText (m.offset.getD 0) ++ ".")
  else if m.year = 0 then some "year 0 is out of range"
  else if m.month = 0 ∨ 12 < m.month then some "month must be in 1..12"
  else if m.day = 0 ∨ daysIn m.year m.month < m.day then some "day is out of range for month"
  else
    match m.time with
    | none => none
    | some (hour, minute, second) =>
      if 23 < hour then some "hour must be in 0..23"
      else if 59 < minute then some "minute must be in 0..59"
      else if 59 < second then some "second must be in 0..59"
      else none

/-- What keeps a text from being a date. -/
def dateFault? (text : List Char) : Option ScalarFault :=
  match Tag.moment? false (Tag.withoutFinalBreak text) with
  | none => some .notTimestamp
  | some m => (calendarReason? m).map .noSuchDate

/-! ### Bytes -/

/-- Whether a character is one of the sixty-four that encode bytes. -/
def isBase64 (c : Char) : Bool := c.isAlphanum || c == '+' || c == '/'

/-- Whether bytes are encoded completely, after so many characters of a group of four and so many equals signs.  Other
characters do not count, and what follows a complete end does not either. -/
def encodesBytes : Nat → Nat → List Char → Bool
  | group, _, [] => group == 0
  | group, pads, c :: s =>
    if c = '=' then
      if 2 ≤ group ∧ 4 ≤ group + pads + 1 then true
      else encodesBytes group (if 2 ≤ group then pads + 1 else pads) s
    else if isBase64 c then encodesBytes ((group + 1) % 4) 0 s
    else encodesBytes group pads s

/-! ### All scalars -/

/-- What is wrong with a scalar's text under a tag. -/
def fault? (tag : Tag) (text : String) : Option DocumentFault :=
  let s := text.toList
  match tag with
  | .null => none
  | .str => none
  | .bool => if Tag.boolWords.contains text.toLower then none else some (.scalar .notBoolean)
  | .int => (intFault? s).map .scalar
  | .float => (numberFault? s).map .scalar
  | .timestamp => (dateFault? s).map .scalar
  | .binary =>
    if s.all (·.toNat < 0x80) && encodesBytes 0 0 s then none else some .malformed
  | _ => some .malformed

end ModuleReach.Yaml.Scalar
