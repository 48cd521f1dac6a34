import SingleSignOn.Time.Instant
import SingleSignOn.Text.Decimal

namespace SingleSignOn.Calendar

/-!
# Dates and their notation

An instant is split into a date of the Gregorian calendar, continued before
its introduction and with a year zero, and a time of day.  Two notations are
in use: the long one of records shown for inspection, and the timestamp at
the front of a log line.
-/

/-- A date and a time of day. -/
structure Moment where
  year : Int
  month : Nat
  day : Nat
  hour : Nat
  minute : Nat
  second : Nat
  nanosecond : Nat
  deriving DecidableEq, Repr

/-- The date of a day counted from the start of 1970.  Days are counted in
cycles of four hundred years from the first of March of the year zero, so
that a leap day is the last day of its year. -/
def dateOfDay (day : Int) : Int × Nat × Nat :=
  let shifted := day + 719468
  let cycle := shifted / 146097
  let dayOfCycle := (shifted % 146097).toNat
  let yearOfCycle := (dayOfCycle - dayOfCycle / 1460 + dayOfCycle / 36524 - dayOfCycle / 146096) / 365
  let dayOfYear := dayOfCycle - (365 * yearOfCycle + yearOfCycle / 4 - yearOfCycle / 100)
  let shiftedMonth := (5 * dayOfYear + 2) / 153
  let dayOfMonth := dayOfYear - (153 * shiftedMonth + 2) / 5 + 1
  let month := if shiftedMonth < 10 then shiftedMonth + 3 else shiftedMonth - 9
  (yearOfCycle + cycle * 400 + (if month ≤ 2 then 1 else 0), month, dayOfMonth)

/-- The date and time of an instant. -/
def momentOf (instant : Instant) : Moment :=
  let seconds := instant.unixSeconds
  let (year, month, day) := dateOfDay (seconds / 86400)
  let secondOfDay := (seconds % 86400).toNat
  ⟨year, month, day, secondOfDay / 3600, secondOfDay / 60 % 60, secondOfDay % 60,
    instant.subsecond.toNat⟩

/-- A number filled with zeros from the left. -/
def padded (width number : Nat) : String :=
  let written := Decimal.text number
  String.ofList (List.replicate (width - written.length) '0' ++ written)

/-- A year with at least four digits, with a minus sign before the year zero
and a plus sign if it has more digits. -/
def yearText (year : Int) : String :=
  (if year < 0 then "-" else if 9999 < year then "+" else "") ++ padded 4 year.natAbs

/-- A fraction of a second without trailing zeros, of one digit at least. -/
def fractionText (nanosecond : Nat) : String :=
  match ((padded 9 nanosecond).toList.reverse.dropWhile (· == '0')).reverse with
  | [] => "0"
  | written => String.ofList written

/-- Date, time and offset as shown in records; the hour is not padded. -/
def longText (instant : Instant) : String :=
  let moment := momentOf instant
  yearText moment.year ++ "-" ++ padded 2 moment.month ++ "-" ++ padded 2 moment.day ++ " " ++
    padded 1 moment.hour ++ ":" ++ padded 2 moment.minute ++ ":" ++ padded 2 moment.second ++ "." ++
    fractionText moment.nanosecond ++ " +00:00:00"

/-- The timestamp of a log line, cut to microseconds. -/
def timestamp (instant : Instant) : String :=
  let moment := momentOf instant
  yearText moment.year ++ "-" ++ padded 2 moment.month ++ "-" ++ padded 2 moment.day ++ "T" ++
    padded 2 moment.hour ++ ":" ++ padded 2 moment.minute ++ ":" ++ padded 2 moment.second ++ "." ++
    padded 6 (moment.nanosecond / 1000) ++ "Z"

end SingleSignOn.Calendar
