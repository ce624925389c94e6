import DocumentDb.Text.Alphanumeric
import DocumentDb.Text.Word.Table

/-!
# Words of a text

`segments` cuts a text at the word boundaries of Unicode Standard Annex 29 and `words` keeps the
segments that hold a letter or a number.

Every rule of the annex looks at the characters next to a possible boundary, where marks, formatting
characters and joiners belong to the character before them. `Left` is what the rules need to know of
the text on the left; `joins` tells whether two neighbours stay together.
-/

set_option autoImplicit false

namespace DocumentDb.Text

/-- The classes of characters that the boundary rules tell apart. -/
inductive WordClass
  | carriageReturn | lineFeed | newline
  | space
  | joiner | extending | formatting
  | regional | katakana | hebrew | alphabetic | numeric | connecting
  | singleQuote | doubleQuote | midEither | midLetter | midNumber
  | other
deriving DecidableEq, Repr

namespace WordClass

/-- The class of an ASCII character. -/
def ofAscii (c : Char) : WordClass :=
  if c.isAlpha then .alphabetic
  else if c.isDigit then .numeric
  else match c with
    | '\r' => .carriageReturn
    | '\n' => .lineFeed
    | '\x0b' => .newline
    | '\x0c' => .newline
    | ' ' => .space
    | '\'' => .singleQuote
    | '\"' => .doubleQuote
    | '.' => .midEither
    | ':' => .midLetter
    | ',' => .midNumber
    | ';' => .midNumber
    | '_' => .connecting
    | _ => .other

/-- Spaces that stay together. -/
def isSpaceCode (n : Nat) : Bool :=
  n == 0x1680 || (0x2000 ≤ n && n ≤ 0x2006) || (0x2008 ≤ n && n ≤ 0x200A) || n == 0x205F ||
    n == 0x3000

/-- The class of a character beyond ASCII. -/
def ofWide (c : Char) : WordClass :=
  let n := c.toNat
  if n == 0x85 || n == 0x2028 || n == 0x2029 then .newline
  else if isSpaceCode n then .space
  else if n == 0x200D then .joiner
  else if WordTable.extending.contains c then .extending
  else if WordTable.formatting.contains c then .formatting
  else if WordTable.regional.contains c then .regional
  else if WordTable.katakana.contains c then .katakana
  else if WordTable.hebrew.contains c then .hebrew
  else if WordTable.alphabetic.contains c then .alphabetic
  else if WordTable.numeric.contains c then .numeric
  else if WordTable.connecting.contains c then .connecting
  else if WordTable.midEither.contains c then .midEither
  else if WordTable.midLetter.contains c then .midLetter
  else if WordTable.midNumber.contains c then .midNumber
  else .other

def ofChar (c : Char) : WordClass := if c.toNat < 128 then ofAscii c else ofWide c

/-- Letters of alphabetic scripts, Hebrew included. -/
def isLetter (k : WordClass) : Bool := k == .alphabetic || k == .hebrew

def isLineEnd (k : WordClass) : Bool := k == .carriageReturn || k == .lineFeed || k == .newline

/-- Characters that belong to the character before them. -/
def isAttached (k : WordClass) : Bool := k == .extending || k == .formatting || k == .joiner

/-- Punctuation that joins two letters. -/
def joinsLetters (k : WordClass) : Bool := k == .midLetter || k == .midEither || k == .singleQuote

/-- Punctuation that joins two digits. -/
def joinsDigits (k : WordClass) : Bool := k == .midNumber || k == .midEither || k == .singleQuote

end WordClass

/-- Whether a pictograph is joined by a zero-width joiner before it. -/
def isPictograph (c : Char) : Bool := WordTable.pictographic.contains c

/-- What the rules need to know of the text before a possible boundary: the class of the last
character, the classes of the last two characters that nothing attaches to, and whether an odd
number of regional indicators ends the text. -/
structure Left where
  last : WordClass
  base : WordClass
  before : Option WordClass
  oddRegional : Bool

/-- The text that consists of one character. -/
def Left.single (k : WordClass) : Left := ⟨k, k, none, k == .regional⟩

/-- Whether a character of class `k` attaches to the text before it. -/
def Left.attaches (l : Left) (k : WordClass) : Bool := k.isAttached && !l.last.isLineEnd

/-- The text with one more character. -/
def Left.push (l : Left) (k : WordClass) : Left :=
  if l.attaches k then { l with last := k }
  else ⟨k, k, some l.base, k == .regional && !(l.base == .regional && l.oddRegional)⟩

/-- The class of the next character that nothing attaches to. -/
def nextBase (cs : List Char) : Option WordClass :=
  ((cs.map WordClass.ofChar).dropWhile WordClass.isAttached).head?

/-- Whether no boundary lies between the text on the left and the character `c` before `rest`. -/
def joins (l : Left) (c : Char) (rest : List Char) : Bool :=
  let k := WordClass.ofChar c
  let next (p : WordClass → Bool) : Bool := (nextBase rest).any p
  let earlier (p : WordClass → Bool) : Bool := l.before.any p
  if l.last == .carriageReturn && k == .lineFeed then true
  else if l.last.isLineEnd || k.isLineEnd then false
  else if l.last == .joiner && isPictograph c then true
  else if l.last == .space && k == .space then true
  else if k.isAttached then true
  else
    -- letters, also across one punctuation mark
    (l.base.isLetter && k.isLetter) ||
    (l.base.isLetter && k.joinsLetters && next (·.isLetter)) ||
    (earlier (·.isLetter) && l.base.joinsLetters && k.isLetter) ||
    -- Hebrew with quotation marks
    (l.base == .hebrew && k == .singleQuote) ||
    (l.base == .hebrew && k == .doubleQuote && next (· == .hebrew)) ||
    (earlier (· == .hebrew) && l.base == .doubleQuote && k == .hebrew) ||
    -- digits, also across one punctuation mark and next to letters
    (l.base == .numeric && k == .numeric) ||
    (l.base.isLetter && k == .numeric) ||
    (l.base == .numeric && k.isLetter) ||
    (earlier (· == .numeric) && l.base.joinsDigits && k == .numeric) ||
    (l.base == .numeric && k.joinsDigits && next (· == .numeric)) ||
    -- katakana and connectors
    (l.base == .katakana && k == .katakana) ||
    ((l.base.isLetter || l.base == .numeric || l.base == .katakana || l.base == .connecting) &&
      k == .connecting) ||
    (l.base == .connecting && (k.isLetter || k == .numeric || k == .katakana)) ||
    -- regional indicators in pairs
    (l.base == .regional && k == .regional && l.oddRegional)

/-- The segments of a text whose first segment starts with `current`, last character first, after
the text that `l` describes. -/
def segmentsFrom (l : Left) (current : List Char) : (cs : List Char) → List (List Char)
  | [] => [current.reverse]
  | c :: rest =>
    let l' := l.push (WordClass.ofChar c)
    if joins l c rest then segmentsFrom l' (c :: current) rest
    else current.reverse :: segmentsFrom l' [c] rest

/-- A text cut at its word boundaries. -/
def segments : List Char → List (List Char)
  | [] => []
  | c :: rest => segmentsFrom (Left.single (WordClass.ofChar c)) [c] rest

/-- The segments of a text that hold a letter or a number. -/
def words (text : String) : List String :=
  ((segments text.toList).filter (·.any isAlphanumeric)).map String.ofList

end DocumentDb.Text
