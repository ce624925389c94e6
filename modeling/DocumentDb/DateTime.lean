import DocumentDb.Numeric.Decimal
import DocumentDb.Text.Blank

/-!
# Points in time

A `DateTime` counts seconds since 1970 in UTC, with nanoseconds. A leap second repeats the second
before it with a full second or more in its nanoseconds. `render` writes RFC 3339 with the offset
`+00:00` or `Z`, and `read?` accepts RFC 3339 in the relaxed form in which blanks may stand between
the parts.
-/

set_option autoImplicit false

namespace DocumentDb

/-- Seconds since 1970-01-01T00:00:00Z, and nanoseconds within the second. -/
structure DateTime where
  seconds : Int
  nanos : Nat
deriving DecidableEq, Repr, Inhabited

/-- A day of the proleptic Gregorian calendar. -/
structure Civil where
  year : Int
  month : Nat
  day : Nat
deriving DecidableEq, Repr

namespace Civil

/-- Whether a year has a 29th of February. -/
def isLeapYear (year : Int) : Bool :=
  year % 4 == 0 && (year % 100 != 0 || year % 400 == 0)

/-- Number of days of a month. -/
def daysInMonth (year : Int) (month : Nat) : Nat :=
  if month = 2 then (if isLeapYear year then 29 else 28)
  else if month = 4 || month = 6 || month = 9 || month = 11 then 30
  else 31

def isValid (c : Civil) : Bool :=
  1 ≤ c.month && c.month ≤ 12 && 1 ≤ c.day && c.day ≤ daysInMonth c.year c.month

/-- Days since 1970-01-01. Years are counted from March, so that the leap day ends a year, and in
eras of 400 years, which all have 146097 days. -/
def toDays (c : Civil) : Int :=
  let y := if c.month ≤ 2 then c.year - 1 else c.year
  let era := y.fdiv 400
  let yearOfEra := y - era * 400
  let monthFromMarch : Int := ((c.month : Int) + 9) % 12
  let dayOfYear := (153 * monthFromMarch + 2) / 5 + c.day - 1
  let dayOfEra := yearOfEra * 365 + yearOfEra / 4 - yearOfEra / 100 + dayOfYear
  era * 146097 + dayOfEra - 719468

/-- The day that lies `days` after 1970-01-01. -/
def ofDays (days : Int) : Civil :=
  let z := days + 719468
  let era := z.fdiv 146097
  let dayOfEra := z - era * 146097
  let yearOfEra := (dayOfEra - dayOfEra / 1460 + dayOfEra / 36524 - dayOfEra / 146096) / 365
  let dayOfYear := dayOfEra - (365 * yearOfEra + yearOfEra / 4 - yearOfEra / 100)
  let monthFromMarch := (5 * dayOfYear + 2) / 153
  let day := dayOfYear - (153 * monthFromMarch + 2) / 5 + 1
  let month := if monthFromMarch < 10 then monthFromMarch + 3 else monthFromMarch - 9
  let year := yearOfEra + era * 400
  ⟨if month ≤ 2 then year + 1 else year, month.toNat, day.toNat⟩

end Civil

namespace DateTime

def secondsPerDay : Int := 86400

def nanosPerSecond : Nat := 1000000000

/-- The earlier time comes first; within a second the nanoseconds decide. -/
def compare (a b : DateTime) : Ordering :=
  (Ord.compare a.seconds b.seconds).then (Ord.compare a.nanos b.nanos)

/-! ### Writing -/

/-- A number with zeros in front up to `width` digits. -/
def padded (width n : Nat) : List Char :=
  let digits := Nat.toDigits 10 n
  List.replicate (width - digits.length) '0' ++ digits

/-- Four digits for the years 0 to 9999; other years have a sign and at least four digits. -/
def renderYear (year : Int) : List Char :=
  if 0 ≤ year && year ≤ 9999 then padded 4 year.toNat
  else (if year < 0 then '-' else '+') :: padded 4 year.natAbs

/-- None, three, six or nine digits: the fewest that lose nothing. -/
def renderFraction (nanos : Nat) : List Char :=
  if nanos = 0 then []
  else if nanos % 1000000 = 0 then '.' :: padded 3 (nanos / 1000000)
  else if nanos % 1000 = 0 then '.' :: padded 6 (nanos / 1000)
  else '.' :: padded 9 nanos

/-- Date and time of day, without an offset. A leap second is written as second 60. -/
def renderLocal (t : DateTime) : List Char :=
  let days := t.seconds.fdiv secondsPerDay
  let second := (t.seconds - days * secondsPerDay).toNat
  let date := Civil.ofDays days
  renderYear date.year ++ '-' :: padded 2 date.month ++ '-' :: padded 2 date.day ++
    'T' :: padded 2 (second / 3600) ++ ':' :: padded 2 (second / 60 % 60) ++
    ':' :: padded 2 (second % 60 + t.nanos / nanosPerSecond)
      ++ renderFraction (t.nanos % nanosPerSecond)

/-- RFC 3339 with the offset written as digits. -/
def render (t : DateTime) : String := String.ofList (t.renderLocal ++ "+00:00".toList)

/-- RFC 3339 with the offset written as `Z`. -/
def renderZulu (t : DateTime) : String := String.ofList (t.renderLocal ++ ['Z'])

/-! ### Reading -/

/-- Blanks may stand in front of every part. -/
def skipBlanks (cs : List Char) : List Char := cs.dropWhile Text.isBlank

/-- A number of one to `width` digits. -/
def readNumber? (width : Nat) (cs : List Char) : Option (Nat × List Char) :=
  let digits := (cs.take width).takeWhile Char.isDigit
  if digits.isEmpty then none
  else some (valueOfDigits 0 digits, cs.drop digits.length)

/-- A number of at most two digits in a range, after blanks. -/
def readPart? (low high : Nat) (cs : List Char) : Option (Nat × List Char) := do
  let (n, rest) ← readNumber? 2 (skipBlanks cs)
  if low ≤ n && n ≤ high then some (n, rest) else none

/-- A year: four digits at most, or any number of digits after a sign. -/
def readYear? (cs : List Char) : Option (Int × List Char) :=
  match skipBlanks cs with
  | '-' :: rest => (readNumber? rest.length rest).map fun (n, rest) => (-(n : Int), rest)
  | '+' :: rest => (readNumber? rest.length rest).map fun (n, rest) => ((n : Int), rest)
  | rest => (readNumber? 4 rest).map fun (n, rest) => ((n : Int), rest)

/-- A given character, after blanks. -/
def readMark? (mark : Char) (cs : List Char) : Option (List Char) :=
  match skipBlanks cs with
  | c :: rest => if c == mark then some rest else none
  | [] => none

/-- A fraction of a second in nanoseconds; digits beyond the ninth are dropped. -/
def readFraction? : List Char → Option (Nat × List Char)
  | '.' :: rest =>
    let digits := (rest.take 9).takeWhile Char.isDigit
    if digits.isEmpty then none
    else some (valueOfDigits 0 digits * Nat.pow 10 (9 - digits.length),
      (rest.drop digits.length).dropWhile Char.isDigit)
  | rest => some (0, rest)

/-- An offset from UTC in seconds: `UTC`, `Z`, or a sign with two digits each for hours and minutes,
between which colons and blanks may stand. -/
def readOffset? (cs : List Char) : Option (Int × List Char) :=
  if (cs.take 3).map Char.toUpper == ['U', 'T', 'C'] then some (0, cs.drop 3)
  else
    match cs with
    | [] => none
    | sign :: rest =>
      if sign == 'Z' || sign == 'z' then some (0, rest)
      else if sign != '+' && sign != '-' && sign != Char.ofNat 0x2212 then none
      else
        let minuteDigits := (rest.drop 2).dropWhile fun c => c == ':' || Text.isBlank c
        let hours := rest.take 2
        let minutes := minuteDigits.take 2
        if hours.length < 2 || minutes.length < 2 || !hours.all Char.isDigit ||
            !minutes.all Char.isDigit || 60 ≤ valueOfDigits 0 minutes then none
        else
          let seconds : Int := valueOfDigits 0 hours * 3600 + valueOfDigits 0 minutes * 60
          some (if sign == '+' then seconds else -seconds, minuteDigits.drop 2)

/-- The years for which dates exist. -/
def leastYear : Int := -262143

def greatestYear : Int := 262142

/-- A date: year, month and day with dashes between them. -/
def readDate? (cs : List Char) : Option (Civil × List Char) := do
  let (year, cs) ← readYear? cs
  let cs ← readMark? '-' cs
  let (month, cs) ← readPart? 1 12 cs
  let cs ← readMark? '-' cs
  let (day, cs) ← readPart? 1 31 cs
  some (⟨year, month, day⟩, cs)

/-- A time of day as seconds and nanoseconds. Second 60 is a leap second. -/
def readTime? (cs : List Char) : Option (Nat × Nat × List Char) := do
  let (hour, cs) ← readPart? 0 23 cs
  let cs ← readMark? ':' cs
  let (minute, cs) ← readPart? 0 59 cs
  let cs ← readMark? ':' cs
  let (second, cs) ← readPart? 0 60 cs
  let (nanos, cs) ← readFraction? cs
  let leap := second / 60
  some (hour * 3600 + minute * 60 + (second - leap), nanos + leap * nanosPerSecond, cs)

/-- Reads a date, a `T` or a space, a time and an offset. -/
def read? (text : String) : Option DateTime := do
  let (date, cs) ← readDate? text.toList
  let cs ← match cs with
    | c :: rest => if c == 'T' || c == 't' || c == ' ' then some rest else none
    | [] => none
  let (second, nanos, cs) ← readTime? cs
  let (offset, cs) ← readOffset? (skipBlanks cs)
  let seconds := date.toDays * secondsPerDay + second - offset
  let year := (Civil.ofDays (seconds.fdiv secondsPerDay)).year
  if Text.allBlank cs && date.isValid && leastYear ≤ date.year && date.year ≤ greatestYear &&
      leastYear ≤ year && year ≤ greatestYear && offset.natAbs < 86400 then
    some ⟨seconds, nanos⟩
  else none

end DateTime

end DocumentDb
