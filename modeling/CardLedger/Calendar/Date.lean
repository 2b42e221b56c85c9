import CardLedger.Number.Notation

/-!
# Civil dates

Dates of the proleptic Gregorian calendar and their day numbers, counted from 1970-01-01. Years are
counted from March on, so that a leap day is the last day of its year.
-/

namespace CardLedger

/-- A civil date. -/
structure Date where
  year : Int
  month : Nat
  day : Nat
  deriving DecidableEq

namespace Date

/-- The first and the last year of the calendar. -/
def firstYear : Int := -262143

@[inherit_doc firstYear]
def lastYear : Int := 262142

/-- Whether a year has a leap day. -/
def isLeapYear (year : Int) : Bool :=
  year % 4 == 0 && (year % 100 != 0 || year % 400 == 0)

/-- The number of days of a month. -/
def monthLength (year : Int) (month : Nat) : Nat :=
  if month = 2 then if isLeapYear year then 29 else 28
  else if month = 4 ∨ month = 6 ∨ month = 9 ∨ month = 11 then 30
  else 31

/-- Whether the three numbers name a day. -/
def isValid (d : Date) : Bool :=
  decide (1 ≤ d.month) && decide (d.month ≤ 12) && decide (1 ≤ d.day) &&
    decide (d.day ≤ monthLength d.year d.month)

/-- Whether the date lies in the calendar's years. -/
def inCalendar (d : Date) : Bool :=
  decide (firstYear ≤ d.year) && decide (d.year ≤ lastYear)

/-- The number of days from 1970-01-01 to a date. -/
def dayNumber (d : Date) : Int :=
  let year := if d.month ≤ 2 then d.year - 1 else d.year
  let month : Int := if d.month ≤ 2 then d.month + 9 else d.month - 3
  365 * year + year / 4 - year / 100 + year / 400 + (153 * month + 2) / 5 + d.day - 719469

/-- The date a number of days after 1970-01-01. -/
def ofDayNumber (n : Int) : Date :=
  let shifted := n + 719468
  let era := shifted / 146097
  let dayOfEra := shifted % 146097
  let yearOfEra := (dayOfEra - dayOfEra / 1460 + dayOfEra / 36524 - dayOfEra / 146096) / 365
  let dayOfYear := dayOfEra - (365 * yearOfEra + yearOfEra / 4 - yearOfEra / 100)
  let month := (5 * dayOfYear + 2) / 153
  let day := dayOfYear - (153 * month + 2) / 5 + 1
  { year := yearOfEra + 400 * era + if month < 10 then 0 else 1
    month := (if month < 10 then month + 3 else month - 9).toNat
    day := day.toNat }

/-- The first day of the month of a date. -/
def monthStart (d : Date) : Date :=
  { d with day := 1 }

/-- The first day of the month after that of a date. -/
def nextMonthStart (d : Date) : Date :=
  if d.month = 12 then ⟨d.year + 1, 1, 1⟩ else ⟨d.year, d.month + 1, 1⟩

/-- The same day some months later; the last day of the month where it has no such day. -/
def addMonths (d : Date) (count : Nat) : Date :=
  let months : Int := 12 * d.year + d.month - 1 + count
  let year := months / 12
  let month := (months % 12).toNat + 1
  ⟨year, month, min d.day (monthLength year month)⟩

/-- The year in four digits; outside of these with a sign. -/
def yearText (year : Int) : String :=
  if 0 ≤ year ∧ year ≤ 9999 then Number.padded 4 year.toNat
  else if 0 ≤ year then "+" ++ Number.padded 4 year.toNat
  else "-" ++ Number.padded 4 (-year).toNat

/-- Year, month and day with hyphens between them. -/
def toText (d : Date) : String :=
  yearText d.year ++ "-" ++ Number.padded 2 d.month ++ "-" ++ Number.padded 2 d.day

instance : ToString Date := ⟨toText⟩

end Date

end CardLedger
