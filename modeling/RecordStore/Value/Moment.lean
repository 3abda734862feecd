/-!
# Moments in time

A moment is a whole second, counted from the start of 1970, and a number of nanoseconds
inside that second. A leap second carries one thousand million nanoseconds or more, so
that it lies behind every other moment of its second. The calendar covers a fixed range of
seconds; a moment outside of it does not exist.
-/

namespace RecordStore

namespace Moment

/-- The first second of the calendar. -/
def earliestSecond : Int := -8334601228800

/-- The last second of the calendar. -/
def latestSecond : Int := 8210266876799

/-- Nanoseconds in an ordinary second. -/
def nanosecondsInSecond : Nat := 1000000000

end Moment

/-- A point in time, inside the calendar. -/
structure Moment where
  seconds : Int
  nanoseconds : Nat
  notTooEarly : Moment.earliestSecond ≤ seconds
  notTooLate : seconds ≤ Moment.latestSecond
  insideSecond : nanoseconds < 2 * Moment.nanosecondsInSecond
  deriving DecidableEq

namespace Moment

/-- The moment of a second and a number of nanoseconds, if the calendar has it. -/
def of? (seconds : Int) (nanoseconds : Nat) : Option Moment :=
  if bounds : (earliestSecond ≤ seconds ∧ seconds ≤ latestSecond) ∧
      nanoseconds < 2 * nanosecondsInSecond then
    some ⟨seconds, nanoseconds, bounds.1.1, bounds.1.2, bounds.2⟩
  else none

/-- The start of a second, if the calendar has it. -/
def ofSeconds? (seconds : Int) : Option Moment := of? seconds 0

/-- A leap second stands behind the ordinary end of its second. -/
def isLeap (moment : Moment) : Bool := decide (nanosecondsInSecond ≤ moment.nanoseconds)

/-- The moment without the part of its second that is below a whole one; a leap second
stays a leap second. -/
def truncated (moment : Moment) : Moment where
  seconds := moment.seconds
  nanoseconds := if moment.isLeap then nanosecondsInSecond else 0
  notTooEarly := moment.notTooEarly
  notTooLate := moment.notTooLate
  insideSecond := by
    split
    · decide
    · decide

end Moment

end RecordStore
