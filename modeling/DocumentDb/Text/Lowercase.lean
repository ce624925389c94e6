import DocumentDb.Text.Lowercase.Table

/-!
# Lower case

`lowerChar` is the full lower-case form of one character; only the dotted capital I has a form of
two characters. `lower` is the lower-case form of a text, in which a capital sigma at the end of a
word becomes the final small sigma.
-/

set_option autoImplicit false

namespace DocumentDb.Text

/-- The character that a run maps `c` to, if the run covers it. -/
def CaseRun.map? (r : CaseRun) (c : Char) : Option Char :=
  let n := c.toNat
  if r.first ≤ n && n ≤ r.last && (n - r.first) % r.step == 0 then
    some (Char.ofNat (r.target + (n - r.first)))
  else none

/-- The lower-case form of one character. -/
def lowerChar (c : Char) : List Char :=
  if c.toNat < 128 then [c.toLower]
  else if c.toNat = 0x130 then ['i', Char.ofNat 0x307]
  else [(lowerRuns.findSome? (·.map? c)).getD c]

/-- Whether a character has case. -/
def isCased (c : Char) : Bool :=
  if c.toNat < 128 then c.isAlpha else casedTable.contains c

/-- Whether the search for a neighbouring letter skips a character. -/
def isCaseIgnorable (c : Char) : Bool := caseIgnorableTable.contains c

/-- Whether the first character that is not skipped is cased. -/
def startsCased (cs : List Char) : Bool :=
  match cs.dropWhile isCaseIgnorable with
  | c :: _ => isCased c
  | [] => false

def capitalSigma : Char := Char.ofNat 0x3A3
def smallSigma : Char := Char.ofNat 0x3C3
def finalSigma : Char := Char.ofNat 0x3C2

/-- Lower-case form of the characters `cs` that follow the characters `before`, last one first. A
capital sigma ends a word if a cased letter stands before it and none after it. -/
def lowerAfter (before : List Char) : (cs : List Char) → List Char
  | [] => []
  | c :: rest =>
    let form :=
      if c == capitalSigma then
        [if startsCased before && !startsCased rest then finalSigma else smallSigma]
      else lowerChar c
    form ++ lowerAfter (c :: before) rest

/-- The lower-case form of a list of characters. -/
def lowerChars (cs : List Char) : List Char := lowerAfter [] cs

/-- The lower-case form of a text. -/
def lower (text : String) : String := String.ofList (lowerChars text.toList)

end DocumentDb.Text
