/-!
# Blank characters

Blanks separate words in module sources and surround target names.  Two things set them apart from
the blanks of many other formats: the four information separators `U+001C` … `U+001F` count, and
the zero-width characters `U+200B` and `U+FEFF` do not.

## Main definitions

* `Text.isBlank` — the characters that count as blank.
* `Text.trimBlanks` — a text without the blanks at its two ends.
-/

namespace ModuleReach.Text

/-- Whether a character is blank: a tab, line or page control, an information separator, or one of
the spacing and separating characters of the standard. -/
def isBlank (c : Char) : Bool :=
  let n := c.toNat
  (0x09 ≤ n && n ≤ 0x0D) || (0x1C ≤ n && n ≤ 0x20) || n == 0x85 || n == 0xA0 || n == 0x1680 ||
    (0x2000 ≤ n && n ≤ 0x200A) || n == 0x2028 || n == 0x2029 || n == 0x202F || n == 0x205F ||
    n == 0x3000

/-- The characters from the first that is not blank to the last that is not blank. -/
def trimBlanks (s : List Char) : List Char :=
  ((s.dropWhile isBlank).reverse.dropWhile isBlank).reverse

@[simp] theorem trimBlanks_nil : trimBlanks [] = [] := rfl

end ModuleReach.Text
