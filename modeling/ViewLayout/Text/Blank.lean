/-!
# Blank characters

White space as layout texts use it: the 25 characters with the Unicode property White_Space and the
four information separators. `trim` cuts blanks from both ends of a text.
-/

namespace ViewLayout.Text

/-- White space: the Unicode property White_Space, and the information separators U+001C to
U+001F. -/
def isBlank (c : Char) : Bool :=
  let n := c.toNat
  (9 ≤ n && n ≤ 13) || (28 ≤ n && n ≤ 32) || n == 0x85 || n == 0xa0 || n == 0x1680 ||
    (0x2000 ≤ n && n ≤ 0x200a) || n == 0x2028 || n == 0x2029 || n == 0x202f || n == 0x205f ||
    n == 0x3000

/-- A text without the blanks at its end. -/
def trimEnd (text : List Char) : List Char :=
  (text.reverse.dropWhile isBlank).reverse

/-- A text without the blanks at both ends. -/
def trim (text : List Char) : List Char :=
  trimEnd (text.dropWhile isBlank)

end ViewLayout.Text
