import CallWatch.Time.Timestamp
import CallWatch.Word

/-! Instants from their text in the internet date and time format.
The reader takes a date of the calendar with a year of four digits, a time with up to nine
fraction digits and the mark of universal time, and counts the days by the lengths of years and
months. It is what a written timestamp can be compared with.
-/

namespace CallWatch.Time

-----------------------------------------------------------------------------------------
-- Days
-----------------------------------------------------------------------------------------

/-- Every fourth year is a leap year, but of the hundredth ones only every fourth is. -/
def isLeapYear (year : Int) : Bool :=
  year % 4 = 0 && (year % 100 ≠ 0 || year % 400 = 0)

/-- The lengths of the months of a year. -/
def monthsOf (year : Int) : List Nat :=
  [31, if isLeapYear year then 29 else 28, 31, 30, 31, 30, 31, 31, 30, 31, 30, 31]

/-- The days from 1 January of the year 0 to 1 January of a year. -/
def daysBeforeYear (year : Int) : Int :=
  365 * year + (year + 3) / 4 - (year + 99) / 100 + (year + 399) / 400

/-- The days of the months before a place. -/
def daysBefore : List Nat → Nat → Nat
  | length :: rest, place + 1 => length + daysBefore rest place
  | _, _ => 0

namespace Date

/-- The date is one of the calendar. -/
def IsValid (d : Date) : Prop :=
  1 ≤ d.month ∧ 1 ≤ d.day ∧ d.day ≤ (monthsOf d.year).getD (d.month - 1) 0

instance (d : Date) : Decidable d.IsValid :=
  inferInstanceAs (Decidable (_ ∧ _ ∧ _))

/-- The days from 1 January 1970 to a date. -/
def unixDay (d : Date) : Int :=
  daysBeforeYear d.year + daysBefore (monthsOf d.year) (d.month - 1) + d.day - 1
    - daysBeforeYear 1970

end Date

-----------------------------------------------------------------------------------------
-- Texts
-----------------------------------------------------------------------------------------

/-- Reads numbers of a fixed width, each after its mark, and gives what follows them. -/
def marked? : List (Char × Nat) → List Char → Option (List Nat × List Char)
  | [], cs => some ([], cs)
  | _ :: _, [] => none
  | (mark, width) :: form, c :: cs => do
    if c ≠ mark ∨ cs.length < width then none
    else
      let n ← Text.digitsValue? 0 (cs.take width)
      let (more, rest) ← marked? form (cs.drop width)
      return (n :: more, rest)

/-- Month, day, hour, minute and second, as they follow the year. -/
def clockForm : List (Char × Nat) :=
  [('-', 2), ('-', 2), ('T', 2), (':', 2), (':', 2)]

/-- Reads the end of a text: up to nine fraction digits after a point, if there is one, and the
mark of universal time. The value is in nanoseconds.
-/
def fraction? : List Char → Option Nat
  | ['Z'] => some 0
  | '.' :: cs =>
    let digits := cs.dropLast
    if cs.getLast? = some 'Z' ∧ 1 ≤ digits.length ∧ digits.length ≤ 9 then
      (Text.digitsValue? 0 digits).map (· * tenPow (9 - digits.length))
    else none
  | _ => none

namespace Instant

/-- The instant of a date and a time. Second 60 is the leap second that follows second 59. -/
def ofClock? (date : Date) (hour minute second fraction : Nat) : Option Instant :=
  if date.IsValid ∧ hour < 24 ∧ minute < 60 ∧ second ≤ 60 then
    let start := date.unixDay * 86400 + hour * 3600 + minute * 60
    if second = 60 then some ⟨start + 59, 1000000000 + fraction⟩
    else some ⟨start + second, fraction⟩
  else none

/-- The instant that a text tells. -/
def ofText? (text : String) : Option Instant := do
  let cs := text.toList
  let year ← Text.digitsValue? 0 (cs.take 4)
  let (fields, rest) ← marked? clockForm (cs.drop 4)
  let fraction ← fraction? rest
  match fields with
  | [month, day, hour, minute, second] =>
    ofClock? ⟨year, month, day⟩ hour minute second fraction
  | _ => none

end Instant

end CallWatch.Time
