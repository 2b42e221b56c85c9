import CardLedger.Calendar.Offset

/-!
# Spend windows

The business day and the business month of an instant, as half-open stretches of time between local
midnights. A window has to end in the calendar; where it does not, the fault says why. One fault is
not an answer: asked for a local date that the calendar does not have, the ledger panics.
-/

namespace CardLedger

/-- The stretch of time from an instant up to another one, the latter excluded. -/
structure Window where
  start : Instant
  stop : Instant
  deriving DecidableEq

/-- Why a window or a date cannot be told. -/
inductive WindowFault where
  /-- The local date of the instant is not in the calendar. Nobody is told so: the call panics. -/
  | noLocalDate (instant : Instant) (offset : Offset)
  | noNextDay (date : Date)
  | noNextMonth (first : Date)
  | noMidnight (date : Date) (offset : Offset)
  deriving DecidableEq

/-- The wording of a fault. -/
def WindowFault.message : WindowFault → String
  | .noLocalDate _ _ => "Local time out of range for `NaiveDateTime`"
  | .noNextDay date => s!"no day after {date}"
  | .noNextMonth first => s!"no month after {first}"
  | .noMidnight date offset => s!"cannot resolve midnight of {date} in {offset}"

namespace Offset

/-- The local date of an instant, which the calendar has to have. -/
def readDate (o : Offset) (i : Instant) : Except WindowFault Date :=
  match o.localDate? i with
  | some d => .ok d
  | none => .error (.noLocalDate i o)

/-- The local midnight at which a date begins. -/
def midnight (o : Offset) (d : Date) : Except WindowFault Instant :=
  match o.midnight? d with
  | some i => .ok i
  | none => .error (.noMidnight d o)

/-- The window between the midnights of two dates. -/
def windowBetween (o : Offset) (first next : Date) : Except WindowFault Window := do
  let start ← o.midnight first
  let stop ← o.midnight next
  return ⟨start, stop⟩

/-- The business day of an instant. -/
def dayWindow (o : Offset) (now : Instant) : Except WindowFault Window := do
  let today ← o.readDate now
  let tomorrow := Date.ofDayNumber (today.dayNumber + 1)
  if tomorrow.inCalendar then o.windowBetween today tomorrow else .error (.noNextDay today)

/-- The business month of an instant. -/
def monthWindow (o : Offset) (now : Instant) : Except WindowFault Window := do
  let today ← o.readDate now
  let first := today.monthStart
  let next := first.nextMonthStart
  if next.inCalendar then o.windowBetween first next else .error (.noNextMonth first)

end Offset

end CardLedger
