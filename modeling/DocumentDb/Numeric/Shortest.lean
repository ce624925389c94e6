import DocumentDb.Numeric.Binary64

/-!
# Shortest decimal text of a double

The reals that round to a double form an interval around it. `Binary64.shortest` looks for the
decimal with the fewest significant digits inside that interval, and of two with equally many
digits takes the one nearer to the double, the even one if both are equally near. For a count of
digits the decimals form a grid, and if the interval holds a point of the grid it holds one of the
two grid points around the double, so only those two are tried. Seventeen digits always suffice.

`Binary64.render` writes the digits: positional between `1e-5` and `1e16`, scientific outside.
-/

set_option autoImplicit false

namespace DocumentDb

namespace Binary64

/-- Number of decimal digits of a positive natural. -/
def digitCount (n : Nat) : Nat := (Nat.toDigits 10 n).length

/-- Twice the width of the unit in the last place, in quarters of the unit `2^-1074`. -/
def quarterGap (x : Binary64) : Nat := 2 * Nat.pow 2 x.scale

/-- Distance from the double to the lower end of its interval, in quarters of `2^-1074`. The doubles
below a power of two are twice as dense as those above it. -/
def lowerGap (x : Binary64) : Nat :=
  if x.fraction = 0 && 1 < x.exponent then x.quarterGap / 2 else x.quarterGap

/-- Whether `num / den` quarters of `2^-1074` round to the positive double `x`. The ends of the
interval round to the even pattern. -/
def holds (x : Binary64) (num den : Nat) : Bool :=
  let lo := (4 * x.magnitude - x.lowerGap) * den
  let hi := (4 * x.magnitude + x.quarterGap) * den
  if x.fraction % 2 = 0 then lo ≤ num && num ≤ hi else lo < num && num < hi

/-- The `e` with `10^e ≤ num / den < 10^(e+1)`, for positive arguments. -/
def decimalExponent (num den : Nat) : Int :=
  if den ≤ num then digitCount (num / den) - 1
  else -(digitCount ((den - 1) / num) : Int)

/-- A decimal numeral `d₁.d₂d₃… * 10^exponent`, the digits as one natural number. -/
structure Scientific where
  digits : Nat
  exponent : Int
deriving DecidableEq, Repr

/-- The grid point of `count` digits that is nearest to the positive double among those that round
to it. Of two that are equally near the even one is taken. -/
def nearestOnGrid? (x : Binary64) (e : Int) (count : Nat) : Option Nat :=
  -- a grid point `d` stands for `d * 10^step`, which is `d * up / down`
  let step : Int := e - (count - 1)
  let up := Nat.pow 10 step.toNat
  let down := Nat.pow 10 (-step).toNat
  let quarters := 4 * unitsPerOne * up
  let below := x.magnitude * down / (unitsPerOne * up)
  let inside (d : Nat) : Bool := x.holds (d * quarters) down
  let belowGap := 4 * x.magnitude * down - below * quarters
  let aboveGap := (below + 1) * quarters - 4 * x.magnitude * down
  match inside below, inside (below + 1) with
  | true, true =>
    if belowGap < aboveGap || (belowGap = aboveGap && below % 2 = 0) then some below
    else some (below + 1)
  | true, false => some below
  | false, true => some (below + 1)
  | false, false => none

/-- The first digit counts from `count` on that have a hit, tried `tries` times. -/
def searchGrids (x : Binary64) (e : Int) : (tries count : Nat) → Nat × Nat
  | 0, count => (0, count)
  | tries + 1, count =>
    match x.nearestOnGrid? e count with
    | some d => (d, count)
    | none => x.searchGrids e tries (count + 1)

/-- The shortest decimal that reads back as the finite double `x`, its sign left out. -/
def shortest (x : Binary64) : Scientific :=
  if x.magnitude = 0 then ⟨0, 0⟩
  else
    let e := decimalExponent x.magnitude unitsPerOne
    let (d, count) := x.searchGrids e 17 1
    -- a carry to the next power of ten has one digit more than the grid
    if d = Nat.pow 10 count then ⟨1, e + 1⟩ else ⟨d, e⟩

/-! ### Text -/

/-- Decimal digits of a natural number. -/
def digitChars (n : Nat) : List Char := Nat.toDigits 10 n

/-- Exponents from `leastPositional` to `greatestPositional` are written without an exponent. -/
def leastPositional : Int := -5

def greatestPositional : Int := 15

/-- Digits with the point after the first `exponent + 1` of them, and at least one digit on each
side of it. -/
def positional (digits : List Char) (exponent : Int) : List Char :=
  if exponent < 0 then
    '0' :: '.' :: List.replicate (exponent.natAbs - 1) '0' ++ digits
  else
    let whole := exponent.toNat + 1
    if digits.length ≤ whole then
      digits ++ List.replicate (whole - digits.length) '0' ++ ['.', '0']
    else digits.take whole ++ '.' :: digits.drop whole

/-- Digits with the point after the first one, if there are more, and a signed exponent. -/
def scientific (digits : List Char) (exponent : Int) : List Char :=
  let mantissa := match digits with
    | d :: d' :: rest => d :: '.' :: d' :: rest
    | short => short
  mantissa ++ 'e' :: (if exponent < 0 then '-' else '+') :: digitChars exponent.natAbs

/-- Text of a finite double. -/
def renderFinite (x : Binary64) : List Char :=
  let s := x.shortest
  let body :=
    if leastPositional ≤ s.exponent && s.exponent ≤ greatestPositional then
      positional (digitChars s.digits) s.exponent
    else scientific (digitChars s.digits) s.exponent
  if x.sign then '-' :: body else body

/-- Text of a double; infinities and NaNs are written as words, a set sign bit as a minus sign. -/
def render (x : Binary64) : String :=
  let word (w : String) : String := if x.sign then "-" ++ w else w
  if x.isNaN then word "NaN"
  else if x.isInfinite then word "inf"
  else String.ofList x.renderFinite

end Binary64

end DocumentDb
