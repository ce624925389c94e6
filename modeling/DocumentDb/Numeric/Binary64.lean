/-!
# Binary floating-point numbers

A `Binary64` is the 64-bit pattern of an IEEE 754 double: a sign bit, eleven exponent bits and
fifty-two fraction bits. Every function here works on the fields of the pattern in exact integer
arithmetic, so nothing depends on the floating-point unit.

The magnitude of a number is the natural number `magnitude x`, counted in units of `2^-1074`, the
smallest positive double. Infinities have the magnitude that their exponent field suggests, which
is above that of every finite number; orders need no separate case for them.

`Binary64.ofRatio` rounds a quotient of naturals to the nearest double, a tie to the even pattern.
`Binary64.compareFloats` and `Binary64.compareIntFloat` are the orders that keys use.
-/

set_option autoImplicit false

namespace DocumentDb

/-- The bit pattern of a double. -/
structure Binary64 where
  bits : UInt64
deriving DecidableEq, Inhabited, Repr

namespace Binary64

/-- Number of units of `2^-1074` in one. -/
def unitsPerOne : Nat := Nat.pow 2 1074

/-! ### Fields -/

/-- Whether the sign bit is set. -/
def sign (x : Binary64) : Bool := Nat.pow 2 63 ≤ x.bits.toNat

/-- The pattern without its sign bit. -/
def unsignedBits (x : Binary64) : Nat := x.bits.toNat % Nat.pow 2 63

/-- The biased exponent field. -/
def exponent (x : Binary64) : Nat := x.unsignedBits / Nat.pow 2 52

/-- The fraction field. -/
def fraction (x : Binary64) : Nat := x.unsignedBits % Nat.pow 2 52

def isNaN (x : Binary64) : Bool := x.exponent == 2047 && x.fraction != 0

def isInfinite (x : Binary64) : Bool := x.exponent == 2047 && x.fraction == 0

def isFinite (x : Binary64) : Bool := x.exponent != 2047

/-- The significand as an integer below `2^53`; the leading one is implicit in normal numbers. -/
def significand (x : Binary64) : Nat :=
  if x.exponent = 0 then x.fraction else Nat.pow 2 52 + x.fraction

/-- Power of two by which the significand counts units of `2^-1074`. -/
def scale (x : Binary64) : Nat := x.exponent - 1

/-- Absolute value in units of `2^-1074`. -/
def magnitude (x : Binary64) : Nat := x.significand * Nat.pow 2 x.scale

/-- Value in units of `2^-1074`. Both zeros have the value zero. -/
def units (x : Binary64) : Int :=
  if x.sign then -(x.magnitude : Int) else x.magnitude

/-- Whether the number is zero, of either sign. -/
def isZero (x : Binary64) : Bool := x.unsignedBits == 0

/-! ### Rounding -/

/-- `num / den` to the nearest natural, a tie to the even one. -/
def roundHalfEven (num den : Nat) : Nat :=
  let q := num / den
  let r := num % den
  if 2 * r < den then q
  else if den < 2 * r then q + 1
  else if q % 2 = 0 then q else q + 1

/-- The pattern with the given sign bit and remaining bits. -/
def ofSignBits (negative : Bool) (rest : Nat) : Binary64 :=
  ⟨UInt64.ofNat ((if negative then Nat.pow 2 63 else 0) + rest)⟩

/-- The bits of infinity without its sign. -/
def infinityBits : Nat := 2047 * Nat.pow 2 52

def infinity (negative : Bool) : Binary64 := ofSignBits negative infinityBits

/-- The quiet NaN with an empty payload. -/
def nan (negative : Bool) : Binary64 := ofSignBits negative (infinityBits + Nat.pow 2 51)

def zero (negative : Bool) : Binary64 := ofSignBits negative 0

/-- The double nearest to `num / den` for `den > 0`, with the given sign. A tie goes to the even
pattern, and a value beyond the largest double becomes infinity. With `n` units of `2^-1074`, the
kept unit is `2^q` where `q` leaves at most 53 significant bits; the pattern of a rounded
significand `r` is then `q * 2^52 + r`, also when rounding carries `r` to `2^53`. -/
def ofRatio (negative : Bool) (num den : Nat) : Binary64 :=
  let units := num * unitsPerOne
  let q := Nat.log2 (units / den) - 52
  let r := roundHalfEven units (den * Nat.pow 2 q)
  ofSignBits negative (min (q * Nat.pow 2 52 + r) infinityBits)

/-- The double nearest to an integer. -/
def ofInt (i : Int) : Binary64 := ofRatio (i < 0) i.natAbs 1

/-- The double nearest to `digits * 10 ^ exponent`. -/
def ofScientific (negative : Bool) (digits : Nat) (exponent : Int) : Binary64 :=
  if 0 ≤ exponent then ofRatio negative (digits * Nat.pow 10 exponent.toNat) 1
  else ofRatio negative digits (Nat.pow 10 exponent.natAbs)

def neg (x : Binary64) : Binary64 := ofSignBits (!x.sign) x.unsignedBits

/-- Product of two finite doubles, rounded to nearest. -/
def mul (a b : Binary64) : Binary64 :=
  ofRatio (a.sign != b.sign) (a.magnitude * b.magnitude) (unitsPerOne * unitsPerOne)

/-- Quotient of two finite doubles with a divisor other than zero, rounded to nearest. -/
def div (a b : Binary64) : Binary64 :=
  ofRatio (a.sign != b.sign) a.magnitude b.magnitude

/-! ### Orders -/

/-- Numeric equality: both zeros are equal, and a NaN equals nothing. -/
def sameNumber (a b : Binary64) : Bool :=
  !a.isNaN && !b.isNaN && a.units == b.units

/-- Position in the total order of all patterns: negative NaNs first, then the numbers from
minus infinity to infinity with `-0.0` below `0.0`, then positive NaNs. -/
def rank (x : Binary64) : Int :=
  if x.sign then -(x.unsignedBits : Int) - 1 else x.unsignedBits

/-- Numeric order, and the order of the patterns as soon as a NaN takes part. -/
def compareFloats (a b : Binary64) : Ordering :=
  if a.isNaN || b.isNaN then compare a.rank b.rank else compare a.units b.units

/-- The integer next to a finite number on the side of zero. -/
def truncate (x : Binary64) : Int := x.units.tdiv unitsPerOne

/-- An integer of 64 bits against a double. The integer is never rounded: beyond the range of the
integers the sign decides, and inside it the whole part does, then what the whole part leaves out.
Negative NaNs are below every integer and positive ones above. -/
def compareIntFloat (i : Int64) (x : Binary64) : Ordering :=
  if x.isNaN then
    if x.sign then .gt else .lt
  else if (Nat.pow 2 63 : Int) * unitsPerOne ≤ x.units then .lt
  else if x.units < -(Nat.pow 2 63 : Int) * unitsPerOne then .gt
  else
    match compare i.toInt x.truncate with
    | .eq => compare (x.truncate * unitsPerOne) x.units
    | unequal => unequal

end Binary64

end DocumentDb
