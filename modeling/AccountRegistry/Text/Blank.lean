/-
White space: the characters with the Unicode property White_Space, and the
removal of them at the ends of a text.
-/

namespace AccountRegistry.Text

/-- The characters that count as white space. -/
def isBlank (c : Char) : Bool :=
  let n := c.toNat
  (0x09 ≤ n && n ≤ 0x0D) || n == 0x20 || n == 0x85 || n == 0xA0 || n == 0x1680 ||
    (0x2000 ≤ n && n ≤ 0x200A) || n == 0x2028 || n == 0x2029 || n == 0x202F || n == 0x205F ||
    n == 0x3000

/-- The text without the white space it begins with. -/
def skipBlanks (cs : List Char) : List Char :=
  cs.dropWhile isBlank

/-- The text without the white space at both ends. -/
def trimmed (cs : List Char) : List Char :=
  (skipBlanks (skipBlanks cs).reverse).reverse

end AccountRegistry.Text
