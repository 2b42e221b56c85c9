import CardLedger.Calendar.Date

/-!
# Instants

Points of time to the nanosecond within the years of the calendar. A leap second is the second
before it prolonged to two thousand million nanoseconds. Instants are ordered by seconds and then
by nanoseconds.
-/

namespace CardLedger

/-- The first second of the calendar, counted from 1970-01-01T00:00:00Z. -/
def firstSecond : Int := -8334601228800

/-- The last second of the calendar. -/
def lastSecond : Int := 8210266876799

/-- A point of time: seconds since 1970-01-01T00:00:00Z, and nanoseconds. -/
structure Instant where
  seconds : Int
  nanos : Nat
  inCalendar : firstSecond ≤ seconds ∧ seconds ≤ lastSecond
  nanosFit : nanos < 1000000000 ∨ (nanos < 2000000000 ∧ seconds % 60 = 59)
  deriving DecidableEq

namespace Instant

/-- The instant of seconds and nanoseconds, if it lies in the calendar. -/
def ofParts? (seconds : Int) (nanos : Nat) : Option Instant :=
  if h : firstSecond ≤ seconds ∧ seconds ≤ lastSecond then
    if h' : nanos < 1000000000 ∨ (nanos < 2000000000 ∧ seconds % 60 = 59) then
      some ⟨seconds, nanos, h, h'⟩
    else none
  else none

/-- The start of 1970, from which seconds are counted. -/
def epoch : Instant :=
  ⟨0, 0, by decide, by decide⟩

instance : Inhabited Instant := ⟨epoch⟩

/-- The first instant of the calendar. -/
def first : Instant :=
  ⟨firstSecond, 0, by decide, by decide⟩

/-- The last instant of the calendar that is not in a leap second. -/
def last : Instant :=
  ⟨lastSecond, 999999999, by decide, by decide⟩

instance : LT Instant :=
  ⟨fun a b => a.seconds < b.seconds ∨ (a.seconds = b.seconds ∧ a.nanos < b.nanos)⟩

instance : LE Instant :=
  ⟨fun a b => a.seconds < b.seconds ∨ (a.seconds = b.seconds ∧ a.nanos ≤ b.nanos)⟩

instance (a b : Instant) : Decidable (a < b) :=
  inferInstanceAs (Decidable (a.seconds < b.seconds ∨ (a.seconds = b.seconds ∧ a.nanos < b.nanos)))

instance (a b : Instant) : Decidable (a ≤ b) :=
  inferInstanceAs (Decidable (a.seconds < b.seconds ∨ (a.seconds = b.seconds ∧ a.nanos ≤ b.nanos)))

/-- The second of its day at the prime meridian. -/
def secondOfDay (i : Instant) : Int :=
  i.seconds % 86400

/-- The date at the prime meridian. -/
def date (i : Instant) : Date :=
  Date.ofDayNumber (i.seconds / 86400)

/-- The time from one instant to a later one in nanoseconds. A leap second lying between their times
of day is counted in. -/
def nanosBetween (start stop : Instant) : Int :=
  let leap : Int :=
    if start.secondOfDay < stop.secondOfDay then if 1000000000 ≤ start.nanos then 1 else 0
    else if stop.secondOfDay < start.secondOfDay then if 1000000000 ≤ stop.nanos then -1 else 0
    else 0
  (stop.seconds - start.seconds + leap) * 1000000000 + (stop.nanos - start.nanos)

/-- The whole days from one instant to a later one. -/
def daysBetween (start stop : Instant) : Int :=
  (nanosBetween start stop).tdiv (86400 * 1000000000)

/-- The same time of day some months later, if that is in the calendar. -/
def addMonths? (i : Instant) (count : Nat) : Option Instant :=
  let d := i.date.addMonths count
  if d.inCalendar then ofParts? (86400 * d.dayNumber + i.secondOfDay) i.nanos else none

/-- The same instant some seconds later, if that is in the calendar. -/
def addSeconds? (i : Instant) (count : Int) : Option Instant :=
  ofParts? (i.seconds + count) i.nanos

end Instant

end CardLedger
