/-!
# Sets of characters

A `CharSet` is a list of ranges of code points. The classes that Unicode defines are written as
text, one range `first-last` or one code point after the other, in hexadecimal.
-/

set_option autoImplicit false

namespace DocumentDb.Text

/-- The value of a hexadecimal digit; other characters count as zero. -/
def hexDigitValue (c : Char) : Nat :=
  if c.isDigit then c.toNat - '0'.toNat
  else if 'A' ≤ c && c ≤ 'F' then c.toNat - 'A'.toNat + 10
  else if 'a' ≤ c && c ≤ 'f' then c.toNat - 'a'.toNat + 10
  else 0

/-- Whether a character is a hexadecimal digit. -/
def isHexDigit (c : Char) : Bool :=
  c.isDigit || ('A' ≤ c && c ≤ 'F') || ('a' ≤ c && c ≤ 'f')

/-- The value of a list of hexadecimal digits. -/
def hexValue (digits : List Char) : Nat :=
  digits.foldl (fun n c => 16 * n + hexDigitValue c) 0

/-- The pieces of a list between the separators, empty pieces left out. -/
def piecesBy (isSeparator : Char → Bool) (cs : List Char) : List (List Char) :=
  let (current, pieces) := cs.foldr
    (fun c (current, pieces) =>
      if isSeparator c then ([], if current.isEmpty then pieces else current :: pieces)
      else (c :: current, pieces))
    ([], [])
  if current.isEmpty then pieces else current :: pieces

/-- Whether a character separates the entries of a table. -/
def isGap (c : Char) : Bool := c == ' ' || c == '\n'

/-- A set of characters as ranges of code points, both ends included. -/
structure CharSet where
  ranges : List (Nat × Nat)
deriving Repr, DecidableEq

namespace CharSet

/-- Whether the set holds a character. -/
def contains (s : CharSet) (c : Char) : Bool :=
  s.ranges.any fun (first, last) => first ≤ c.toNat && c.toNat ≤ last

/-- Reads `first-last` or a single code point. -/
def rangeOfText (text : List Char) : Nat × Nat :=
  let first := hexValue (text.takeWhile (· != '-'))
  match text.dropWhile (· != '-') with
  | [] => (first, first)
  | _ :: last => (first, hexValue last)

/-- Reads ranges of hexadecimal code points separated by blanks. -/
def ofText (text : String) : CharSet :=
  ⟨(piecesBy isGap text.toList).map rangeOfText⟩

end CharSet

end DocumentDb.Text
