import ModuleReach.Json.Basic
import ModuleReach.Text.Hex
import ModuleReach.Text.Split

/-!
# Writing JSON

A value is written in ASCII, with one item or field to a line, two spaces deeper than the brackets around it.
Empty arrays and objects stay on one line.

## Main definitions

* `Json.Writer.char` — a character inside a string.
* `Json.write` — a value as text.
-/

namespace ModuleReach.Json

namespace Writer

/-- The escape with four hexadecimal digits. -/
def unit (n : Nat) : List Char := '\\' :: 'u' :: Text.hex 4 n

/-- A character inside a string.  Printable ASCII stands for itself, some controls have short escapes, and anything else is
written by number, as two numbers if one of four digits cannot hold it. -/
def char (c : Char) : List Char :=
  match c with
  | '"' => ['\\', '"']
  | '\\' => ['\\', '\\']
  | '\n' => ['\\', 'n']
  | '\r' => ['\\', 'r']
  | '\t' => ['\\', 't']
  | '\x0c' => ['\\', 'f']
  | '\x08' => ['\\', 'b']
  | c =>
    if ' ' ≤ c ∧ c ≤ '~' then [c]
    else if c.toNat < 0x10000 then unit c.toNat
    else
      let n := c.toNat - 0x10000
      unit (0xD800 + n / 0x400) ++ unit (0xDC00 + n % 0x400)

/-- A text in quotes. -/
def string (s : String) : List Char := '"' :: s.toList.flatMap char ++ ['"']

/-- The break to a line that begins at a given depth. -/
def newline (depth : Nat) : List Char := '\n' :: List.replicate (2 * depth) ' '

/-- Pieces between brackets, one to a line, where `depth` is that of the brackets. -/
def block (opening closing : Char) (depth : Nat) : List (List Char) → List Char
  | [] => [opening, closing]
  | pieces =>
    opening :: newline (depth + 1) ++ Text.joinWith (',' :: newline (depth + 1)) pieces ++
      newline depth ++ [closing]

mutual

/-- A value whose brackets are at a given depth. -/
def value (depth : Nat) : Json → List Char
  | .null => "null".toList
  | .bool true => "true".toList
  | .bool false => "false".toList
  | .number literal => literal.toList
  | .string text => string text
  | .array items => block '[' ']' depth (values (depth + 1) items)
  | .object entries => block '\x7b' '\x7d' depth (fields (depth + 1) entries)

/-- The items of an array. -/
def values (depth : Nat) : List Json → List (List Char)
  | [] => []
  | item :: rest => value depth item :: values depth rest

/-- The fields of an object. -/
def fields (depth : Nat) : List (String × Json) → List (List Char)
  | [] => []
  | (name, item) :: rest =>
    (string name ++ ':' :: ' ' :: value depth item) :: fields depth rest

end

end Writer

/-- A value as text. -/
def write (v : Json) : String := String.ofList (Writer.value 0 v)

end ModuleReach.Json
