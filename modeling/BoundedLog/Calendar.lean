/-!
# Dates and time marks

Days are counted from the first of January 1970 and dates are those of the Gregorian calendar,
extended to all years. A `Moment` is a second counted from the beginning of that day, with a part
of a second that may reach into a leap second, seen at a distance from Greenwich.

A time mark is a line that shows a moment: weekday, date, time and the distance from Greenwich,
in whole minutes.
-/

namespace BoundedLog

/-- A date of the Gregorian calendar. -/
structure Date where
  year : Int
  month : Nat
  day : Nat
  deriving DecidableEq, Repr

namespace Date

/-- The date of a day. The year is taken to begin in March, so that a leap day comes last, and
eras of four hundred years all have the same number of days. -/
def ofDay (day : Int) : Date :=
  let shifted := day + 719468
  let era := shifted / 146097
  let dayOfEra := (shifted % 146097).toNat
  let yearOfEra :=
    (dayOfEra - dayOfEra / 1460 + dayOfEra / 36524 - dayOfEra / 146096) / 365
  let dayOfYear := dayOfEra - (365 * yearOfEra + yearOfEra / 4 - yearOfEra / 100)
  let monthFromMarch := (5 * dayOfYear + 2) / 153
  let month := if monthFromMarch < 10 then monthFromMarch + 3 else monthFromMarch - 9
  { year := era * 400 + yearOfEra + if month ≤ 2 then 1 else 0
    month
    day := dayOfYear - (153 * monthFromMarch + 2) / 5 + 1 }

example :
  ofDay 0 = ⟨1970, 1, 1⟩ ∧ ofDay 19782 = ⟨2024, 2, 29⟩ ∧ ofDay (-719529) = ⟨-1, 12, 31⟩
  := by decide

/-- The first and the last year that the calendar knows. -/
def years : Int × Int := (-262143, 262142)

/-- The short names of the weekdays, from the weekday of day zero on. -/
def weekdays : List String := ["Thu", "Fri", "Sat", "Sun", "Mon", "Tue", "Wed"]

/-- The short names of the months. -/
def months : List String :=
  ["Jan", "Feb", "Mar", "Apr", "May", "Jun", "Jul", "Aug", "Sep", "Oct", "Nov", "Dec"]

end Date

/-- A moment, as it is seen at a place. -/
structure Moment where
  /-- Seconds from the beginning of 1970. -/
  seconds : Int
  /-- Billionths of a second; in a leap second there are a billion more. -/
  nanos : Nat := 0
  /-- Seconds by which the clocks of the place are ahead of those in Greenwich. -/
  offset : Int := 0
  deriving DecidableEq, Repr

namespace Moment

/-- The seconds of a day. -/
def secondsPerDay : Nat := 86400

/-- Whether the calendar knows the moment. A leap second follows the last second of a minute. -/
def isKnown (m : Moment) : Bool :=
  let year := (Date.ofDay (m.seconds / secondsPerDay)).year
  Date.years.1 ≤ year && year ≤ Date.years.2 && m.nanos < 2000000000
    && (m.nanos < 1000000000 || m.seconds % 60 == 59)

/-- Whether a place can be so far from Greenwich. -/
def hasPlace (m : Moment) : Bool := m.offset.natAbs < secondsPerDay

/-- A number with zeros in front, up to a width. -/
def padded (width n : Nat) : String :=
  let digits := Nat.toDigits 10 n
  String.ofList (List.replicate (width - digits.length) '0' ++ digits)

/-- A year in four digits, with a sign if it needs more or is before year zero. -/
def yearText (year : Int) : String :=
  if 0 ≤ year && year ≤ 9999 then padded 4 year.toNat
  else (if year < 0 then "-" else "+") ++ padded 4 year.natAbs

/-- The distance from Greenwich in hours and minutes; half a minute is rounded away from zero. -/
def offsetText (offset : Int) : String :=
  let minutes := (offset.natAbs + 30) / 60
  (if offset < 0 then "-" else "+") ++ padded 2 (minutes / 60) ++ padded 2 (minutes % 60)

/-- The time mark of a moment, a line that shows it. -/
def mark (m : Moment) : String :=
  let present := m.seconds + m.offset
  let day := present / secondsPerDay
  let second := (present % secondsPerDay).toNat
  let date := Date.ofDay day
  let weekday := Date.weekdays.getD (day % 7).toNat ""
  let month := Date.months.getD (date.month - 1) ""
  let time := padded 2 (second / 3600) ++ ":" ++ padded 2 (second / 60 % 60) ++ ":"
    ++ padded 2 (second % 60 + m.nanos / 1000000000)
  "timestamp:" ++ weekday ++ ", " ++ padded 2 date.day ++ " " ++ month ++ " "
    ++ yearText date.year ++ " " ++ time ++ " " ++ offsetText m.offset ++ "\n"

end Moment

end BoundedLog
