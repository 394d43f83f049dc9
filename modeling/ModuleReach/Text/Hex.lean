/-!
# Hexadecimal digits

Lower-case hexadecimal text of a fixed width, as digests and character escapes write it, and the value of
a hexadecimal digit in either case.

## Main definitions

* `Text.hexDigit`, `Text.hex` — one digit, and a number in a given count of digits.
* `Text.hexValue?` — the value of a digit.

## Main results

* `Text.length_hex` — the text has the width that was asked for.
* `Text.hexValue?_hexDigit` — a written digit reads back.
-/

namespace ModuleReach.Text

/-- The lower-case digit for a value below sixteen. -/
def hexDigit (n : Nat) : Char :=
  if n < 10 then Char.ofNat (0x30 + n) else Char.ofNat (0x57 + n)

/-- The last `width` hexadecimal digits of a number. -/
def hex : Nat → Nat → List Char
  | 0, _ => []
  | width + 1, n => hex width (n / 16) ++ [hexDigit (n % 16)]

/-- The value of a hexadecimal digit, in upper or lower case. -/
def hexValue? (c : Char) : Option Nat :=
  if '0' ≤ c ∧ c ≤ '9' then some (c.toNat - 0x30)
  else if 'a' ≤ c ∧ c ≤ 'f' then some (c.toNat - 0x57)
  else if 'A' ≤ c ∧ c ≤ 'F' then some (c.toNat - 0x37)
  else none

@[simp] theorem length_hex (width n : Nat) : (hex width n).length = width := by
  induction width generalizing n with
  | zero => rfl
  | succ width ih => simp [hex, ih]

/-- A written digit reads back. -/
theorem hexValue?_hexDigit {n : Nat} (h : n < 16) : hexValue? (hexDigit n) = some n := by
  have all : ∀ i : Fin 16, hexValue? (hexDigit i.val) = some i.val := by decide
  exact all ⟨n, h⟩

end ModuleReach.Text
