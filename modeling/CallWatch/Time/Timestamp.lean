import CallWatch.Time.Civil
import CallWatch.Text.Integer

/-! Instants of the wall clock and their text in the internet date and time format.
A record's timestamp always has nine fraction digits; the timestamp of a snapshot has the
fewest of none, three, six and nine digits that are exact.
-/

namespace CallWatch.Time

/-- An instant of the wall clock: whole seconds from 1 January 1970 and nanoseconds. A leap
second has a nanosecond part of a second or more.
-/
structure Instant where
  seconds : Int
  nanos : Nat
  deriving DecidableEq, Repr, Inhabited

/-- A year: four digits when they suffice for a year from zero on, else a sign and at least
four digits.
-/
def yearText (year : Int) : List Char :=
  if 0 ≤ year ∧ year ≤ 9999 then Text.padded 4 year.toNat
  else (if year < 0 then '-' else '+') :: Text.padded 4 year.natAbs

/-- The date of an instant and its second of the day. -/
def Instant.date (t : Instant) : Date :=
  Date.ofUnixDay (t.seconds.fdiv 86400)

/-- The date, the letter between and the time to the second; a leap second is second 60. -/
def Instant.secondsText (t : Instant) : List Char :=
  let date := t.date
  let second := (t.seconds.fmod 86400).toNat
  yearText date.year ++ '-' :: Text.padded 2 date.month ++ '-' :: Text.padded 2 date.day
    ++ 'T' :: Text.padded 2 (second / 3600)
    ++ ':' :: Text.padded 2 (second / 60 % 60)
    ++ ':' :: Text.padded 2 (second % 60 + t.nanos / 1000000000)

/-- The nanoseconds within the written second. -/
def Instant.fraction (t : Instant) : Nat :=
  t.nanos % 1000000000

def Instant.fullText (t : Instant) : String :=
  String.ofList (t.secondsText ++ '.' :: Text.padded 9 t.fraction ++ ['Z'])

/-- The text with the fewest of none, three, six and nine fraction digits that are exact. -/
def Instant.shortText (t : Instant) : String :=
  let fraction :=
    if t.fraction = 0 then []
    else if t.fraction % 1000000 = 0 then '.' :: Text.padded 3 (t.fraction / 1000000)
    else if t.fraction % 1000 = 0 then '.' :: Text.padded 6 (t.fraction / 1000)
    else '.' :: Text.padded 9 t.fraction
  String.ofList (t.secondsText ++ fraction ++ ['Z'])

def Instant.plus (t : Instant) (nanos : Nat) : Instant :=
  let total := t.nanos + nanos
  ⟨t.seconds + (total / 1000000000 : Nat), total % 1000000000⟩

end CallWatch.Time
