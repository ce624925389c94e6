/-!
# White space

Blanks are the characters with the property White_Space of Unicode. `trim` removes them at both ends
of a text, and `dropEnds` does so for any property.
-/

set_option autoImplicit false

namespace DocumentDb.Text

/-- Whether a character is white space. -/
def isBlank (c : Char) : Bool :=
  let n := c.toNat
  (9 ≤ n && n ≤ 13) || n == 0x20 || n == 0x85 || n == 0xA0 || n == 0x1680 ||
    (0x2000 ≤ n && n ≤ 0x200A) || n == 0x2028 || n == 0x2029 || n == 0x202F || n == 0x205F ||
    n == 0x3000

/-- Drops the characters with a property at both ends. -/
def dropEnds (p : Char → Bool) (cs : List Char) : List Char :=
  ((cs.dropWhile p).reverse.dropWhile p).reverse

/-- The characters without the blanks at both ends. -/
def trim (cs : List Char) : List Char := dropEnds isBlank cs

/-- Whether a list of characters holds nothing but blanks. -/
def allBlank (cs : List Char) : Bool := cs.all isBlank

end DocumentDb.Text
