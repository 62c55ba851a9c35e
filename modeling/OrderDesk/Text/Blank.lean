/-!
# Blank characters

* `isBlank`    the characters with the white-space property;
* `trim`       a text without the blanks at its two ends.
-/

namespace OrderDesk.Text

/-- the characters with the white-space property: the zero-width space, the byte order mark and
U+180E are not among them -/
def isBlank (c : Char) : Bool :=
  let n := c.toNat
  (0x09 ≤ n && n ≤ 0x0D) || n == 0x20 || n == 0x85 || n == 0xA0 || n == 0x1680 ||
  (0x2000 ≤ n && n ≤ 0x200A) || n == 0x2028 || n == 0x2029 || n == 0x202F || n == 0x205F ||
  n == 0x3000

/-- a list of characters without the blanks at its two ends -/
def trimChars (cs : List Char) : List Char :=
  ((cs.dropWhile isBlank).reverse.dropWhile isBlank).reverse

/-- a text without the blanks at its two ends -/
def trim (s : String) : String := String.ofList (trimChars s.toList)

end OrderDesk.Text
