/-! The proleptic Gregorian calendar.
A day is counted from 1 March of the year 0, so that the leap day ends its year and every
cycle of 4, 100 and 400 years is a run of equal parts with one shorter or longer last part.
-/

namespace CallWatch.Time

/-- A date of the proleptic Gregorian calendar. -/
structure Date where
  year : Int
  month : Nat
  day : Nat
  deriving DecidableEq, Repr

/-- The days from 1 March of the year 0 to 1 January 1970. -/
def epochDay : Int := 719468

/-- The year within a cycle of 400 years, from March, and the day within that year. -/
def yearOfCycle (day : Nat) : Nat × Nat :=
  let century := min 3 (day / 36524)
  let dayOfCentury := day - century * 36524
  let quad := dayOfCentury / 1461
  let dayOfQuad := dayOfCentury - quad * 1461
  let year := min 3 (dayOfQuad / 365)
  (century * 100 + quad * 4 + year, dayOfQuad - year * 365)

/-- The lengths of the months from March; the last is February of a leap year. -/
def monthLengths : List Nat := [31, 30, 31, 30, 31, 31, 30, 31, 30, 31, 31, 29]

/-- The month, counted from March as zero, and the day within it, from zero, of a day of the
year from March.
-/
def monthOfYear : List Nat → Nat → Nat × Nat
  | [], day => (0, day)
  | length :: rest, day =>
    if day < length then (0, day)
    else
      let (month, dayOfMonth) := monthOfYear rest (day - length)
      (month + 1, dayOfMonth)

/-- The date of a day counted from 1 January 1970. -/
def Date.ofUnixDay (unixDay : Int) : Date :=
  let day := unixDay + epochDay
  let cycle := day.fdiv 146097
  let (yearOfCycle, dayOfYear) := yearOfCycle (day.fmod 146097).toNat
  let (month, dayOfMonth) := monthOfYear monthLengths dayOfYear
  let year := cycle * 400 + yearOfCycle
  if month < 10 then ⟨year, month + 3, dayOfMonth + 1⟩
  else ⟨year + 1, month - 9, dayOfMonth + 1⟩

end CallWatch.Time
