import DocumentDb.Text.Decomposition.Table
import DocumentDb.Text.Lowercase
import DocumentDb.Text.Mark

/-!
# Collation

A collation orders texts. The binary one goes by code points. The Unicode one first compares keys in
which compatibility forms are decomposed, marks are dropped and case is folded; texts with one key
fall back to code points. Marks all leave the key, so their canonical order inside a decomposition
does not matter and is not computed.
-/

set_option autoImplicit false

namespace DocumentDb.Text

/-- The parts of a Hangul syllable, by arithmetic on its number. -/
def decomposeHangul (n : Nat) : List Char :=
  let s := n - 0xAC00
  let lead := Char.ofNat (0x1100 + s / 588)
  let vowel := Char.ofNat (0x1161 + s % 588 / 28)
  if s % 28 = 0 then [lead, vowel] else [lead, vowel, Char.ofNat (0x11A7 + s % 28)]

/-- The full compatibility decomposition of a character. -/
def decompose (c : Char) : List Char :=
  let n := c.toNat
  if n < 128 then [c]
  else if 0xAC00 ≤ n && n ≤ 0xD7A3 then decomposeHangul n
  else (decompositionTable.lookup n).getD [c]

/-- The key by which the Unicode collation compares texts first. -/
def collationKey (text : String) : List Char :=
  ((text.toList.flatMap decompose).filter (!isMark ·)).flatMap lowerChar

/-- The orders of texts that a sort can ask for. -/
inductive Collation
  | binary
  | unicode
deriving DecidableEq, Repr, Inhabited

/-- The lexicographic order of two lists of characters by code point. -/
def compareChars (a b : List Char) : Ordering := compareOfLessAndEq a b

/-- Compares two texts. -/
def Collation.compare (k : Collation) (a b : String) : Ordering :=
  match k with
  | .binary => compareChars a.toList b.toList
  | .unicode =>
    (compareChars (collationKey a) (collationKey b)).then (compareChars a.toList b.toList)

end DocumentDb.Text
