/-!
# Blank text

Which characters count as whitespace, and what is left of a text when it is trimmed:

* `isWhitespace`: the characters with the property White_Space;
* `trim`: a text without the whitespace at its two ends;
* `isBlank`: texts of whitespace only, the empty text among them.
-/

namespace Verdict.Text

/-- The characters with the property White_Space. The zero-width space and the byte-order mark are
    not among them. -/
def isWhitespace (c : Char) : Bool :=
  let n := c.toNat
  (0x09 ≤ n && n ≤ 0x0D) || n == 0x20 || n == 0x85 || n == 0xA0 || n == 0x1680 ||
    (0x2000 ≤ n && n ≤ 0x200A) || n == 0x2028 || n == 0x2029 || n == 0x202F || n == 0x205F ||
    n == 0x3000

/-- The characters of `s` without the whitespace before the first and after the last other one. -/
def trimChars (s : List Char) : List Char :=
  ((s.dropWhile isWhitespace).reverse.dropWhile isWhitespace).reverse

/-- A text without the whitespace at its two ends. -/
def trim (s : String) : String := String.ofList (trimChars s.toList)

/-- Texts of whitespace only. -/
def isBlank (s : String) : Bool := s.toList.all isWhitespace

end Verdict.Text
