namespace SingleSignOn

/-!
# Instants

A point in time is a whole number of nanoseconds since the start of 1970 in
UTC.  The calendar runs from the year -9999 to the year 9999; an expiry that
falls outside of it cannot be recorded, which is why adding a duration may
fail.
-/

/-- Nanoseconds since the start of 1970. -/
structure Instant where
  nanoseconds : Int
  deriving DecidableEq, Repr, Inhabited, Ord

namespace Instant

/-- The nanoseconds of one second. -/
def perSecond : Int := 1000000000

/-- The instant so many seconds and nanoseconds after the start of 1970. -/
def ofUnix (seconds : Int) (nanoseconds : Int) : Instant :=
  ⟨seconds * perSecond + nanoseconds⟩

/-- Whole seconds since the start of 1970, rounded down. -/
def unixSeconds (instant : Instant) : Int :=
  instant.nanoseconds / perSecond

/-- The nanoseconds beyond the whole second. -/
def subsecond (instant : Instant) : Int :=
  instant.nanoseconds % perSecond

/-- Whole microseconds since the start of 1970, rounded down. -/
def unixMicroseconds (instant : Instant) : Int :=
  instant.nanoseconds / 1000

/-- The start of the year -9999. -/
def calendarStart : Int := -377705116800

/-- The start of the year 10000. -/
def calendarEnd : Int := 253402300800

/-- Whether the calendar has a date for the instant. -/
def InCalendar (instant : Instant) : Prop :=
  calendarStart ≤ instant.unixSeconds ∧ instant.unixSeconds < calendarEnd

instance (instant : Instant) : Decidable instant.InCalendar :=
  inferInstanceAs (Decidable (_ ∧ _))

/-- The instant so many seconds later, if the calendar still has it. -/
def addSeconds? (instant : Instant) (seconds : Int) : Option Instant :=
  let later : Instant := ⟨instant.nanoseconds + seconds * perSecond⟩
  if later.InCalendar then some later else none

/-- An expiry at `deadline` has been reached at `now`, the boundary included. -/
def reached (deadline now : Instant) : Bool :=
  deadline.nanoseconds ≤ now.nanoseconds

end Instant

end SingleSignOn
