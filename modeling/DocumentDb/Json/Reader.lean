import DocumentDb.Json.Basic
import DocumentDb.Numeric.Decimal
import DocumentDb.Text.CharSet

/-!
# Reading JSON text

`Json.Tree.read?` reads a text into a tree that keeps what the text says: numerals as digits,
strings with escapes, object members in order and with repetitions. `Json.Tree.toJson?` gives the
tree its value. The two steps are apart because a reader of typed data looks at the tree: it skips
members it does not know without looking into them, and refuses repeated ones.

A numeral keeps at most the digits that fit 64 bits. `Numeral.toFloat?` scales them by a power of
ten in floating arithmetic, so the last bit may differ from that of the nearest double.
-/

set_option autoImplicit false

namespace DocumentDb.Json

/-- A numeral as written: sign, digits before and after the point, and the signed exponent. -/
structure Numeral where
  negative : Bool
  whole : List Char
  fraction : List Char
  exponent : Option (Bool × List Char)
deriving Repr, DecidableEq

/-- A piece of a string literal: a character, or a UTF-16 unit written as an escape. -/
inductive TextPart
  | char (c : Char)
  | unit (n : Nat)
deriving Repr, DecidableEq

/-- The tree of a JSON text. -/
inductive Tree
  | null
  | bool (b : Bool)
  | number (n : Numeral)
  | string (parts : List TextPart)
  | array (items : List Tree)
  | object (members : List (List TextPart × Tree))
deriving Inhabited

/-! ### Numerals -/

namespace Numeral

/-- Largest number of 64 bits. -/
def wordLimit : Nat := Nat.pow 2 64 - 1

/-- Largest exponent that is read at all. -/
def exponentLimit : Nat := Nat.pow 2 31 - 1

/-- Appends digits to a number as long as it fits 64 bits; the rest of the digits is returned. -/
def gather (n : Nat) : List Char → Nat × List Char
  | [] => (n, [])
  | c :: rest =>
    if wordLimit < 10 * n + digitValue c then (n, c :: rest)
    else gather (10 * n + digitValue c) rest

/-- A power of ten as a double. -/
def powerOfTen (n : Nat) : Binary64 := Binary64.ofRatio false (Nat.pow 10 n) 1

/-- Largest power of ten that is a finite double. -/
def greatestPower : Nat := 308

/-- Divides by a power of ten in steps of `10^308`. Three steps leave nothing of 64 bits. -/
def scaleDown : (steps : Nat) → Binary64 → Nat → Binary64
  | 0, x, _ => x
  | steps + 1, x, power =>
    if power ≤ greatestPower then x.div (powerOfTen power)
    else if x.isZero then x
    else scaleDown steps (x.div (powerOfTen greatestPower)) (power - greatestPower)

/-- `digits * 10^exponent` in floating arithmetic; nothing when it overflows. -/
def scaled? (negative : Bool) (digits : Nat) (exponent : Int) : Option Binary64 :=
  let x := Binary64.ofInt digits
  let result :=
    if x.isZero then some x
    else if exponent < 0 then some (scaleDown 4 x exponent.natAbs)
    else if greatestPower < exponent.toNat then none
    else
      let y := x.mul (powerOfTen exponent.toNat)
      if y.isInfinite then none else some y
  result.map fun y => if negative then y.neg else y

/-- The float that a numeral denotes. Digits that do not fit 64 bits count as powers of ten before
the point and not at all after it. -/
def toFloat? (n : Numeral) : Option Binary64 :=
  let (digits, dropped) := gather 0 n.whole
  let (digits, unused) := gather digits n.fraction
  let start : Int := (dropped.length : Int) - (n.fraction.length - unused.length : Int)
  match n.exponent with
  | none => scaled? n.negative digits start
  | some (negative, exponentDigits) =>
    let e := valueOfDigits 0 exponentDigits
    if exponentLimit < e then
      if digits ≠ 0 && !negative then none else some (Binary64.zero n.negative)
    else scaled? n.negative digits (if negative then start - e else start + e)

/-- Whether the numeral has digits before the point only. -/
def isWhole (n : Numeral) : Bool := n.fraction.isEmpty && n.exponent.isNone

/-- The value of a numeral. A whole numeral that fits 64 bits, and `-0` apart, is an integer. -/
def toJson? (n : Numeral) : Option Json :=
  let (digits, dropped) := gather 0 n.whole
  if n.isWhole && dropped.isEmpty then
    if !n.negative then some (.integer digits)
    else if digits ≠ 0 && digits ≤ Nat.pow 2 63 then some (.integer (-(digits : Int)))
    else some (.float (Binary64.ofInt digits).neg)
  else n.toFloat?.map .float

end Numeral

/-! ### Strings -/

namespace TextPart

def isHighSurrogate (n : Nat) : Bool := 0xD800 ≤ n && n ≤ 0xDBFF

def isLowSurrogate (n : Nat) : Bool := 0xDC00 ≤ n && n ≤ 0xDFFF

/-- The characters that the parts of a literal denote. Surrogates must come in pairs. -/
def charsOf? : List TextPart → Option (List Char)
  | [] => some []
  | .char c :: rest => (charsOf? rest).map (c :: ·)
  | .unit n :: rest =>
    if isHighSurrogate n then
      match rest with
      | .unit m :: rest' =>
        if isLowSurrogate m then
          (charsOf? rest').map (Char.ofNat (0x10000 + (n - 0xD800) * 0x400 + (m - 0xDC00)) :: ·)
        else none
      | _ => none
    else if isLowSurrogate n then none
    else (charsOf? rest).map (Char.ofNat n :: ·)

/-- The text that the parts of a literal denote. -/
def textOf? (parts : List TextPart) : Option String := (charsOf? parts).map String.ofList

end TextPart

/-! ### Trees -/

namespace Tree

/-- Blanks between the tokens. -/
def isSpace (c : Char) : Bool := c == ' ' || c == '\n' || c == '\t' || c == '\r'

def skipSpace (cs : List Char) : List Char := cs.dropWhile isSpace

/-- The character that a one-letter escape stands for. -/
def escaped? (c : Char) : Option Char :=
  match c with
  | '\"' => some '\"'
  | '\\' => some '\\'
  | '/' => some '/'
  | 'b' => some (Char.ofNat 8)
  | 'f' => some (Char.ofNat 12)
  | 'n' => some '\n'
  | 'r' => some '\r'
  | 't' => some '\t'
  | _ => none

/-- The parts of a string literal after its opening quote, and what follows the closing one. -/
def readParts? : List Char → Option (List TextPart × List Char)
  | [] => none
  | '\"' :: rest => some ([], rest)
  | '\\' :: 'u' :: a :: b :: c :: d :: rest =>
    if [a, b, c, d].all Text.isHexDigit then
      (readParts? rest).map fun (parts, rest) => (.unit (Text.hexValue [a, b, c, d]) :: parts, rest)
    else none
  | '\\' :: c :: rest =>
    match escaped? c with
    | some e => (readParts? rest).map fun (parts, rest) => (.char e :: parts, rest)
    | none => none
  | c :: rest =>
    if c == '\\' || c.toNat < 32 then none
    else (readParts? rest).map fun (parts, rest) => (.char c :: parts, rest)

/-- The digits before the point: a single zero, or a run without a leading one. -/
def readWhole? (cs : List Char) : Option (List Char × List Char) :=
  let digits := cs.takeWhile Char.isDigit
  match digits with
  | [] => none
  | '0' :: _ :: _ => none
  | _ => some (digits, cs.dropWhile Char.isDigit)

/-- The digits after the point, if there is one. -/
def readFraction? : List Char → Option (List Char × List Char)
  | '.' :: rest =>
    let digits := rest.takeWhile Char.isDigit
    if digits.isEmpty then none else some (digits, rest.dropWhile Char.isDigit)
  | rest => some ([], rest)

/-- The exponent, if there is one. -/
def readExponent? : List Char → Option (Option (Bool × List Char) × List Char)
  | [] => some (none, [])
  | e :: rest =>
    if e != 'e' && e != 'E' then some (none, e :: rest)
    else
      let (negative, rest) := match rest with
        | '-' :: tail => (true, tail)
        | '+' :: tail => (false, tail)
        | tail => (false, tail)
      let digits := rest.takeWhile Char.isDigit
      if digits.isEmpty then none
      else some (some (negative, digits), rest.dropWhile Char.isDigit)

/-- A numeral. -/
def readNumeral? (cs : List Char) : Option (Numeral × List Char) := do
  let (negative, cs) := match cs with
    | '-' :: rest => (true, rest)
    | rest => (false, rest)
  let (whole, cs) ← readWhole? cs
  let (fraction, cs) ← readFraction? cs
  let (exponent, cs) ← readExponent? cs
  some (⟨negative, whole, fraction, exponent⟩, cs)

/-- A given word. -/
def readWord? (word : String) (cs : List Char) : Option (List Char) :=
  if word.toList.isPrefixOf cs then some (cs.drop word.length) else none

mutual

/-- A value at the front of a text. Every level of nesting and every item takes one unit of `fuel`,
so the length of the text is enough. -/
def readValue? : (fuel : Nat) → List Char → Option (Tree × List Char)
  | 0, _ => none
  | fuel + 1, cs =>
    match skipSpace cs with
    | [] => none
    | 'n' :: rest => (readWord? "ull" rest).map (.null, ·)
    | 't' :: rest => (readWord? "rue" rest).map (.bool true, ·)
    | 'f' :: rest => (readWord? "alse" rest).map (.bool false, ·)
    | '\"' :: rest => (readParts? rest).map fun (parts, rest) => (.string parts, rest)
    | '[' :: rest =>
      match skipSpace rest with
      | ']' :: rest => some (.array [], rest)
      | rest => (readItems? fuel rest).map fun (items, rest) => (.array items, rest)
    | '\x7b' :: rest =>
      match skipSpace rest with
      | '\x7d' :: rest => some (.object [], rest)
      | rest => (readMembers? fuel rest).map fun (members, rest) => (.object members, rest)
    | rest => (readNumeral? rest).map fun (n, rest) => (.number n, rest)

/-- The items of an array and its closing bracket. -/
def readItems? : (fuel : Nat) → List Char → Option (List Tree × List Char)
  | 0, _ => none
  | fuel + 1, cs => do
    let (item, rest) ← readValue? fuel cs
    match skipSpace rest with
    | ',' :: rest =>
      let (items, rest) ← readItems? fuel rest
      some (item :: items, rest)
    | ']' :: rest => some ([item], rest)
    | _ => none

/-- The members of an object and its closing brace. -/
def readMembers? : (fuel : Nat) → List Char → Option (List (List TextPart × Tree) × List Char)
  | 0, _ => none
  | fuel + 1, cs => do
    let rest ← match skipSpace cs with
      | '\"' :: rest => some rest
      | _ => none
    let (name, rest) ← readParts? rest
    let rest ← match skipSpace rest with
      | ':' :: rest => some rest
      | _ => none
    let (value, rest) ← readValue? fuel rest
    match skipSpace rest with
    | ',' :: rest =>
      let (members, rest) ← readMembers? fuel rest
      some ((name, value) :: members, rest)
    | '\x7d' :: rest => some ([(name, value)], rest)
    | _ => none

end

/-- Reads a whole text. -/
def read? (text : String) : Option Tree :=
  let cs := text.toList
  match readValue? (2 * cs.length + 2) cs with
  | some (tree, rest) => if (skipSpace rest).isEmpty then some tree else none
  | none => none

mutual

/-- The value of a tree in which arrays and objects nest at most `depth` deep. -/
def toJson? (depth : Nat) : Tree → Option Json
  | .null => some .null
  | .bool b => some (.bool b)
  | .number n => n.toJson?
  | .string parts => (TextPart.textOf? parts).map .string
  | .array items => if depth = 0 then none else (toItems? (depth - 1) items).map .array
  | .object members => if depth = 0 then none else (toMembers? (depth - 1) members).map ofMembers

def toItems? (depth : Nat) : List Tree → Option (List Json)
  | [] => some []
  | t :: rest => do
    let j ← toJson? depth t
    let js ← toItems? depth rest
    some (j :: js)

def toMembers? (depth : Nat) : List (List TextPart × Tree) → Option (List (String × Json))
  | [] => some []
  | (name, t) :: rest => do
    let text ← TextPart.textOf? name
    let j ← toJson? depth t
    let js ← toMembers? depth rest
    some ((text, j) :: js)

end

end Tree

/-- Arrays and objects may nest this deep. -/
def depthLimit : Nat := 127

/-- Reads a JSON text. -/
def read? (text : String) : Option Json := (Tree.read? text).bind (Tree.toJson? depthLimit)

end DocumentDb.Json
