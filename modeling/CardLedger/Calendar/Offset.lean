import CardLedger.Calendar.Timestamp

/-!
# Business offsets

The fixed distance of the business clock from UTC, in whole seconds and less than a day, and the
dates and times of day that the clock shows. Settings give it in minutes.
-/

namespace CardLedger

/-- A fixed distance of a local clock from UTC. -/
structure Offset where
  seconds : Int
  withinDay : -86400 < seconds ∧ seconds < 86400
  deriving DecidableEq

/-- A time of day on a local clock. -/
structure LocalTime where
  hour : Nat
  minute : Nat
  second : Nat
  deriving DecidableEq

/-- The whole minutes since midnight. -/
def LocalTime.minuteOfDay (t : LocalTime) : Nat :=
  60 * t.hour + t.minute

/-- Hour and minute with a colon between them. -/
def LocalTime.toText (t : LocalTime) : String :=
  Number.padded 2 t.hour ++ ":" ++ Number.padded 2 t.minute

namespace Offset

/-- The offset of so many seconds, if that is less than a day. -/
def ofSeconds? (seconds : Int) : Option Offset :=
  if h : -86400 < seconds ∧ seconds < 86400 then some ⟨seconds, h⟩ else none

/-- The offset of so many minutes. Their seconds are counted in 32 bits without a check, so that some
numbers far beyond a day wrap around to an offset again. -/
def ofMinutes? (minutes : Int) : Option Offset :=
  ofSeconds? (Int.bmod (minutes * 60) (Nat.pow 2 32))

/-- Nine hours ahead of UTC. -/
def standard : Offset :=
  ⟨32400, by decide⟩

/-- Sign, hours and minutes, and the seconds if there are any. -/
def toText (o : Offset) : String :=
  let size := o.seconds.natAbs
  (if o.seconds < 0 then "-" else "+") ++ Number.padded 2 (size / 3600) ++ ":" ++
    Number.padded 2 (size / 60 % 60) ++
    if size % 60 = 0 then "" else ":" ++ Number.padded 2 (size % 60)

instance : ToString Offset := ⟨toText⟩

/-- The seconds that the local clock has counted. -/
def localSeconds (o : Offset) (i : Instant) : Int :=
  i.seconds + o.seconds

/-- The local date of an instant, days being counted on beyond the ends of the calendar. -/
def localDate (o : Offset) (i : Instant) : Date :=
  Date.ofDayNumber (o.localSeconds i / 86400)

/-- The local date of an instant, if the calendar has it. -/
def localDate? (o : Offset) (i : Instant) : Option Date :=
  if (o.localDate i).inCalendar then some (o.localDate i) else none

/-- The local time of day of an instant. -/
def localTime (o : Offset) (i : Instant) : LocalTime :=
  let second := (o.localSeconds i % 86400).toNat
  ⟨second / 3600, second / 60 % 60, second % 60⟩

/-- The instant of the local midnight at which a date begins, if it is in the calendar. -/
def midnight? (o : Offset) (d : Date) : Option Instant :=
  Instant.ofParts? (86400 * d.dayNumber - o.seconds) 0

end Offset

end CardLedger
