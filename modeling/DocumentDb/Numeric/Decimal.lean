import DocumentDb.Numeric.Binary64

/-!
# Reading numerals

`readUnsigned?` reads a decimal numeral with an optional plus sign, as record ids and array
positions are written. `Binary64.ofText?` reads a decimal float and rounds it correctly: the value
of the numeral is a quotient of naturals, which `Binary64.ofRatio` rounds once.
-/

set_option autoImplicit false

namespace DocumentDb

/-- The value of an ASCII decimal digit. -/
def digitValue (c : Char) : Nat := c.toNat - '0'.toNat

/-- The number that a list of digits denotes, appended to the digits of `start`. -/
def valueOfDigits (start : Nat) (digits : List Char) : Nat :=
  digits.foldl (fun n c => 10 * n + digitValue c) start

/-- A nonempty run of ASCII digits, after at most one plus sign, whose value is at most `limit`. -/
def readUnsigned? (limit : Nat) (text : String) : Option Nat :=
  let digits := match text.toList with
    | '+' :: rest => rest
    | all => all
  if digits.isEmpty || !digits.all Char.isDigit then none
  else
    let n := valueOfDigits 0 digits
    if n ≤ limit then some n else none

namespace Binary64

/-- An exponent part: nothing, or `e` with an optional sign and at least one digit. -/
def readExponent? : List Char → Option Int
  | [] => some 0
  | e :: rest =>
    if e != 'e' && e != 'E' then none
    else
      let (negative, digits) := match rest with
        | '-' :: ds => (true, ds)
        | '+' :: ds => (false, ds)
        | ds => (false, ds)
      if digits.isEmpty || !digits.all Char.isDigit then none
      else
        let n : Int := valueOfDigits 0 digits
        some (if negative then -n else n)

/-- Beyond this decimal exponent of the leading digit every numeral rounds to zero or infinity. -/
def exponentLimit : Int := 400

/-- An unsigned numeral `digits[.digits][e[sign]digits]` with a digit on some side of the point. -/
def readMagnitude? (negative : Bool) (cs : List Char) : Option Binary64 := do
  let whole := cs.takeWhile Char.isDigit
  let (fraction, rest) := match cs.dropWhile Char.isDigit with
    | '.' :: tail => (tail.takeWhile Char.isDigit, tail.dropWhile Char.isDigit)
    | tail => ([], tail)
  if whole.isEmpty && fraction.isEmpty then none
  let e ← readExponent? rest
  let digits := valueOfDigits (valueOfDigits 0 whole) fraction
  let leading := e + whole.length
  if digits = 0 || leading < -exponentLimit - whole.length - fraction.length then
    some (zero negative)
  else if exponentLimit < e - fraction.length then some (infinity negative)
  else some (ofScientific negative digits (e - fraction.length))

/-- Reads a float: an optional sign, then a numeral or one of the words `inf`, `infinity` and
`nan` in any case. -/
def ofText? (text : String) : Option Binary64 :=
  let (negative, body) := match text.toList with
    | '-' :: rest => (true, rest)
    | '+' :: rest => (false, rest)
    | all => (false, all)
  let lower := body.map Char.toLower
  if lower == "inf".toList || lower == "infinity".toList then some (infinity negative)
  else if lower == "nan".toList then some (nan negative)
  else readMagnitude? negative body

end Binary64

end DocumentDb
