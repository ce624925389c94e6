import DocumentDb.Text.Alphanumeric
import DocumentDb.Text.Blank
import DocumentDb.Text.Mark
import DocumentDb.Text.NamedClass

/-!
# Classes of characters in patterns

Set operations on ranges of code points, and the classes that a pattern names: digits, white space,
word characters, general categories, scripts and a few properties.
-/

set_option autoImplicit false

namespace DocumentDb.Text.CharSet

/-- Largest code point. -/
def maxCode : Nat := 0x10FFFF

/-- Joins ranges that touch or overlap, given in order of their starts. -/
def merge : List (Nat × Nat) → List (Nat × Nat)
  | [] => []
  | (a, b) :: rest =>
    match merge rest with
    | [] => [(a, b)]
    | (c, d) :: tail => if c ≤ b + 1 then (a, max b d) :: tail else (a, b) :: (c, d) :: tail

/-- The ranges in order and without overlaps. -/
def normalize (s : CharSet) : CharSet :=
  ⟨merge (s.ranges.mergeSort fun x y => x.1 ≤ y.1)⟩

def ofRange (first last : Nat) : CharSet := ⟨[(first, last)]⟩

def ofChar (c : Char) : CharSet := ofRange c.toNat c.toNat

/-- All characters. -/
def full : CharSet := ofRange 0 maxCode

/-- The gaps from `start` on between ranges in order. -/
def gaps (start : Nat) : List (Nat × Nat) → List (Nat × Nat)
  | [] => if start ≤ maxCode then [(start, maxCode)] else []
  | (a, b) :: rest =>
    if start < a then (start, a - 1) :: gaps (b + 1) rest else gaps (max start (b + 1)) rest

/-- The characters that are not in a set. -/
def complement (s : CharSet) : CharSet := ⟨gaps 0 s.normalize.ranges⟩

/-- The characters of two sets. -/
def union (s t : CharSet) : CharSet := normalize ⟨s.ranges ++ t.ranges⟩

/-- The characters that two sets have in common. -/
def inter (s t : CharSet) : CharSet := complement (union (complement s) (complement t))

/-- The characters of a set that are not in another one. -/
def diff (s t : CharSet) : CharSet := inter s (complement t)

/-- The characters that are in one of two sets only. -/
def symmDiff (s t : CharSet) : CharSet := union (diff s t) (diff t s)

/-- The set with every character that differs from a member only in case. -/
def foldCase (s : CharSet) : CharSet :=
  let holds (n : Nat) : Bool := s.ranges.any fun (a, b) => a ≤ n && n ≤ b
  let more := foldGroups.flatMap fun group => if group.any holds then group else []
  normalize ⟨s.ranges ++ more.map fun n => (n, n)⟩

end DocumentDb.Text.CharSet

namespace DocumentDb.Pattern

open DocumentDb.Text

/-- The union of the classes with one of the given names. -/
def unionOf (classes : List NamedClass) (names : List String) : CharSet :=
  CharSet.normalize
    ⟨(classes.filter fun k => k.names.any names.contains).flatMap (·.members.ranges)⟩

/-- White space. -/
def spaceClass : CharSet := ⟨[(9, 13), (0x20, 0x20), (0x85, 0x85), (0xA0, 0xA0), (0x1680, 0x1680),
  (0x2000, 0x200A), (0x2028, 0x2029), (0x202F, 0x202F), (0x205F, 0x205F), (0x3000, 0x3000)]⟩

/-- Decimal digits of all scripts. -/
def digitClass : CharSet := unionOf categories ["nd"]

/-- Alphabetic characters. -/
def alphabeticClass : CharSet :=
  alphanumericTable.diff (unionOf categories ["nd", "no"])

/-- Characters of words: alphabetic characters, marks, digits, connectors and joiners. -/
def wordClass : CharSet :=
  ((alphabeticClass.union markTable).union (unionOf categories ["nd", "pc"])).union
    (CharSet.ofRange 0x200C 0x200D)

/-- ASCII counterparts of the classes. -/
def asciiDigits : CharSet := CharSet.ofRange 0x30 0x39

def asciiSpaces : CharSet := ⟨[(9, 13), (0x20, 0x20)]⟩

def asciiWord : CharSet := ⟨[(0x30, 0x39), (0x41, 0x5A), (0x5F, 0x5F), (0x61, 0x7A)]⟩

/-- All assigned code points. -/
def assignedClass : CharSet :=
  CharSet.normalize ⟨categories.flatMap (·.members.ranges) ++ [(0xD800, 0xDFFF)]⟩

/-- The general categories that a letter or its name stands for. -/
def categoryGroup? (name : String) : Option (List String) :=
  if name == "l" || name == "letter" then some ["lu", "ll", "lt", "lm", "lo"]
  else if name == "lc" || name == "casedletter" then some ["lu", "ll", "lt"]
  else if name == "m" || name == "mark" || name == "combiningmark" then some ["mn", "mc", "me"]
  else if name == "n" || name == "number" then some ["nd", "nl", "no"]
  else if name == "p" || name == "punctuation" || name == "punct" then
    some ["pc", "pd", "ps", "pe", "pi", "pf", "po"]
  else if name == "s" || name == "symbol" then some ["sm", "sc", "sk", "so"]
  else if name == "z" || name == "separator" then some ["zs", "zl", "zp"]
  else none

/-- The general category with a name. -/
def categoryClass? (name : String) : Option CharSet :=
  match categoryGroup? name with
  | some names => some (unionOf categories names)
  | none =>
    if name == "cn" || name == "unassigned" then some assignedClass.complement
    else if name == "c" || name == "other" then
      some (assignedClass.complement.union (unionOf categories ["cc", "cf", "co"]))
    else (categories.find? (·.names.contains name)).map (·.members)

/-- The script with a name. -/
def scriptClass? (name : String) : Option CharSet :=
  (scripts.find? (·.names.contains name)).map (·.members)

/-- The property with a name. -/
def propertyClass? (name : String) : Option CharSet :=
  if name == "any" then some CharSet.full
  else if name == "ascii" then some (CharSet.ofRange 0 127)
  else if name == "assigned" then some assignedClass
  else if name == "alphabetic" || name == "alpha" then some alphabeticClass
  else if name == "uppercase" || name == "upper" then some uppercaseTable
  else if name == "lowercase" || name == "lower" then some lowercaseTable
  else if name == "whitespace" || name == "wspace" || name == "space" then some spaceClass
  else none

/-- A class name in lower case without blanks, dashes and underscores. -/
def normalizeName (cs : List Char) : String :=
  String.ofList ((cs.filter fun c => c != ' ' && c != '-' && c != '_').map Char.toLower)

/-- The class that a name stands for: a property, a general category or a script. -/
def namedClass? (cs : List Char) : Option CharSet :=
  let name := normalizeName cs
  ((propertyClass? name).or (categoryClass? name)).or (scriptClass? name)

/-- The class of a property and one of its values. -/
def valueClass? (property value : List Char) : Option CharSet :=
  let p := normalizeName property
  let v := normalizeName value
  if p == "gc" || p == "generalcategory" then categoryClass? v
  else if p == "sc" || p == "script" then scriptClass? v
  else none

/-- The classes of ASCII characters that a bracketed class can name between colons. -/
def asciiClass? (name : String) : Option CharSet :=
  match name with
  | "alnum" => some ⟨[(0x30, 0x39), (0x41, 0x5A), (0x61, 0x7A)]⟩
  | "alpha" => some ⟨[(0x41, 0x5A), (0x61, 0x7A)]⟩
  | "ascii" => some ⟨[(0, 0x7F)]⟩
  | "blank" => some ⟨[(9, 9), (0x20, 0x20)]⟩
  | "cntrl" => some ⟨[(0, 0x1F), (0x7F, 0x7F)]⟩
  | "digit" => some asciiDigits
  | "graph" => some ⟨[(0x21, 0x7E)]⟩
  | "lower" => some ⟨[(0x61, 0x7A)]⟩
  | "print" => some ⟨[(0x20, 0x7E)]⟩
  | "punct" => some ⟨[(0x21, 0x2F), (0x3A, 0x40), (0x5B, 0x60), (0x7B, 0x7E)]⟩
  | "space" => some asciiSpaces
  | "upper" => some ⟨[(0x41, 0x5A)]⟩
  | "word" => some asciiWord
  | "xdigit" => some ⟨[(0x30, 0x39), (0x41, 0x46), (0x61, 0x66)]⟩
  | _ => none

end DocumentDb.Pattern
