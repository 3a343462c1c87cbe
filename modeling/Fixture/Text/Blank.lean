/-! # White space

    The characters with the property White_Space, and trimming by it. -/

namespace Fixture.Text

/-- The character has the Unicode property White_Space. -/
def isBlank (c : Char) : Bool :=
  let n := c.toNat
  (0x9 ≤ n && n ≤ 0xD) || n = 0x20 || n = 0x85 || n = 0xA0 || n = 0x1680
    || (0x2000 ≤ n && n ≤ 0x200A) || n = 0x2028 || n = 0x2029 || n = 0x202F
    || n = 0x205F || n = 0x3000

/-- `s` without white space at its start. -/
def trimStart (s : List Char) : List Char := s.dropWhile isBlank

/-- `s` without white space at its end. -/
def trimEnd (s : List Char) : List Char := (s.reverse.dropWhile isBlank).reverse

/-- `s` without white space at both ends. -/
def trim (s : List Char) : List Char := trimEnd (trimStart s)

end Fixture.Text
