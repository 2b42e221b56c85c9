import Mathlib.Order.SuccPred.Basic
import Mathlib.Tactic
import CardLedger.Calendar.Date

/-!
# Day numbers and civil dates

The date of a day number is a day of the calendar, its own day number is the number it was made from,
and later days have later dates. Years are counted from March on here too: `marchStart` is the number
of days before the first of March of a year, and a day belongs to the year whose stretch it falls in.
-/

namespace CardLedger.Date

/-! ## Years from March to February -/

/-- The days from the first of March of the year 0 to the first of March of a year. -/
def marchStart (year : Int) : Int :=
  365 * year + year / 4 - year / 100 + year / 400

/-- The year that a day of an era of 400 years falls in, the first being 0. -/
def yearOfEra (day : Int) : Int :=
  (day - day / 1460 + day / 36524 - day / 146096) / 365

section YearOfEra

variable {day century leap year : Int}

/-- The year lies in the century that the day lies in. -/
theorem century_of_year (hCentury : 0 ≤ century ∧ century ≤ 3) (hStart : 36524 * century ≤ day)
    (hStop : day ≤ 36524 * century + 36523 + century / 3)
    (hLeap : 1460 * leap ≤ day ∧ day < 1460 * leap + 1460)
    (hYear : 365 * year ≤ day - leap + century ∧ day - leap + century ≤ 365 * year + 364) :
    100 * century ≤ year ∧ year < 100 * century + 100 := by
  have hCases : century = 0 ∨ century = 1 ∨ century = 2 ∨ century = 3 := by omega
  rcases hCases with rfl | rfl | rfl | rfl
  · omega
  · omega
  · omega
  · omega

/-- The blocks of 1460 days before a day are as many as the leap years before its year, or one more in
the last days of a fourth year. -/
theorem leap_of_year (hCentury : 0 ≤ century ∧ century ≤ 3) (hStart : 36524 * century ≤ day)
    (hLeap : 1460 * leap ≤ day ∧ day < 1460 * leap + 1460) (hFew : leap ≤ 100)
    (hYear : 365 * year ≤ day - leap + century ∧ day - leap + century ≤ 365 * year + 364) :
    year / 4 ≤ leap ∧ leap ≤ year / 4 + 1 ∧ (year % 4 ≠ 3 → leap ≤ year / 4) := by
  obtain ⟨fourth, rest, hYearEq, hRest⟩ : ∃ fourth rest, year = 4 * fourth + rest ∧ 0 ≤ rest ∧ rest ≤ 3 :=
    ⟨year / 4, year % 4, by omega⟩
  have hFourth : year / 4 = fourth := by omega
  have hLast : year % 4 = rest := by omega
  rw [hFourth, hLast]
  have hBlocks : 25 * century ≤ leap := by omega
  have hLow : fourth ≤ leap := by omega
  have hHigh : leap ≤ fourth + 1 := by omega
  have hEarly : rest ≠ 3 → leap ≤ fourth := by omega
  exact ⟨hLow, hHigh, hEarly⟩

theorem marchStart_yearOfEra (hDay : 0 ≤ day ∧ day < 146097) :
    (0 ≤ yearOfEra day ∧ yearOfEra day < 400) ∧ marchStart (yearOfEra day) ≤ day ∧
      day < marchStart (yearOfEra day + 1) := by
  obtain ⟨year, hYear⟩ : ∃ year, year = yearOfEra day := ⟨_, rfl⟩
  obtain ⟨century, hCenturyEq⟩ : ∃ century, century = day / 36524 - day / 146096 := ⟨_, rfl⟩
  obtain ⟨leap, hLeapEq⟩ : ∃ leap, leap = day / 1460 := ⟨_, rfl⟩
  have hBetween : 365 * year ≤ day - leap + century ∧ day - leap + century ≤ 365 * year + 364 := by
    unfold yearOfEra at hYear
    omega
  have hCentury : 0 ≤ century ∧ century ≤ 3 := by omega
  have hStart : 36524 * century ≤ day := by omega
  have hStop : day ≤ 36524 * century + 36523 + century / 3 := by omega
  have hLeap : 1460 * leap ≤ day ∧ day < 1460 * leap + 1460 := by omega
  have hFew : leap ≤ 100 := by omega
  rw [← hYear]
  clear hYear hCenturyEq hLeapEq
  obtain ⟨hFirst, hLast⟩ := century_of_year hCentury hStart hStop hLeap hBetween
  obtain ⟨hLow, hHigh, hEarly⟩ := leap_of_year hCentury hStart hLeap hFew hBetween
  have hHundred : year / 100 = century := by omega
  have hEra : year / 400 = 0 := by omega
  refine ⟨by omega, ?_, ?_⟩
  · unfold marchStart
    omega
  · unfold marchStart
    by_cases hFourth : year % 4 = 3
    · by_cases hTurn : year = 100 * century + 99
      · -- the last year of a century
        have hNext : (year + 1) / 100 = century + 1 := by omega
        have hNextEra : (year + 1) / 400 = century / 3 := by omega
        omega
      · have hNext : (year + 1) / 100 = century := by omega
        have hNextEra : (year + 1) / 400 = 0 := by omega
        omega
    · have hTurn : year ≠ 100 * century + 99 := by omega
      have hNext : (year + 1) / 100 = century := by omega
      have hNextEra : (year + 1) / 400 = 0 := by omega
      have hBlocks : leap ≤ year / 4 := hEarly hFourth
      omega

end YearOfEra


/-! ## The date of a day number -/

/-- The year from March on that a day falls in. -/
def marchYear (n : Int) : Int :=
  yearOfEra ((n + 719468) % 146097) + 400 * ((n + 719468) / 146097)

theorem marchStart_add_era (year era : Int) :
    marchStart (year + 400 * era) = marchStart year + 146097 * era := by
  unfold marchStart
  omega

theorem marchStart_marchYear (n : Int) :
    marchStart (marchYear n) ≤ n + 719468 ∧ n + 719468 < marchStart (marchYear n + 1) := by
  have hDay : 0 ≤ (n + 719468) % 146097 ∧ (n + 719468) % 146097 < 146097 := by omega
  obtain ⟨-, hFrom, hTo⟩ := marchStart_yearOfEra hDay
  have hNext : marchYear n + 1 =
      yearOfEra ((n + 719468) % 146097) + 1 + 400 * ((n + 719468) / 146097) := by
    unfold marchYear
    ring
  rw [hNext, marchStart_add_era]
  unfold marchYear
  rw [marchStart_add_era]
  omega

theorem isLeapYear_iff {year : Int} :
    isLeapYear year = true ↔ year % 4 = 0 ∧ (year % 100 ≠ 0 ∨ year % 400 = 0) := by
  simp [isLeapYear]

/-- A year from March on ends with a leap day if the next calendar year is a leap year. -/
theorem marchStart_succ (year : Int) :
    marchStart (year + 1) = marchStart year + if isLeapYear (year + 1) then 366 else 365 := by
  unfold marchStart
  by_cases hLeap : isLeapYear (year + 1) = true
  · rw [if_pos hLeap]
    rw [isLeapYear_iff] at hLeap
    omega
  · rw [if_neg hLeap]
    rw [isLeapYear_iff] at hLeap
    omega

/-- The date a number of days into a year from March on. -/
def inMarchYear (year day : Int) : Date :=
  let month := (5 * day + 2) / 153
  { year := year + if month < 10 then 0 else 1
    month := (if month < 10 then month + 3 else month - 9).toNat
    day := (day - (153 * month + 2) / 5 + 1).toNat }

theorem ofDayNumber_eq (n : Int) :
    ofDayNumber n = inMarchYear (marchYear n) (n + 719468 - marchStart (marchYear n)) := by
  have hDay : 0 ≤ (n + 719468) % 146097 ∧ (n + 719468) % 146097 < 146097 := by omega
  obtain ⟨⟨hFirst, hLast⟩, -⟩ := marchStart_yearOfEra hDay
  have hStart : n + 719468 - marchStart (marchYear n) =
      (n + 719468) % 146097 - (365 * yearOfEra ((n + 719468) % 146097) +
        yearOfEra ((n + 719468) % 146097) / 4 - yearOfEra ((n + 719468) % 146097) / 100) := by
    unfold marchYear
    rw [marchStart_add_era]
    unfold marchStart
    omega
  rw [hStart]
  rfl

section InMarchYear

variable {year day : Int}

theorem dayNumber_inMarchYear (hDay : 0 ≤ day ∧ day ≤ 365) :
    (inMarchYear year day).dayNumber = marchStart year + day - 719468 := by
  unfold dayNumber inMarchYear marchStart
  dsimp only
  split
  · omega
  · omega

theorem isValid_iff {d : Date} :
    d.isValid = true ↔ (1 ≤ d.month ∧ d.month ≤ 12) ∧ 1 ≤ d.day ∧ d.day ≤ monthLength d.year d.month := by
  simp [isValid, and_assoc]

/-- The months from March to January have the lengths that a rising line of slope 153 / 5 leaves. -/
theorem monthLength_of_march {month : Int} (hMonth : 0 ≤ month ∧ month ≤ 10) (year : Int) :
    (monthLength year (if month < 10 then month + 3 else month - 9).toNat : Int) =
      (153 * (month + 1) + 2) / 5 - (153 * month + 2) / 5 := by
  obtain ⟨hFirst, hLast⟩ := hMonth
  interval_cases month <;> rfl

theorem monthLength_february (year : Int) :
    monthLength year 2 = if isLeapYear year then 29 else 28 := rfl

theorem isValid_inMarchYear (hDay : 0 ≤ day ∧ day < if isLeapYear (year + 1) then 366 else 365) :
    (inMarchYear year day).isValid = true := by
  rw [isValid_iff]
  unfold inMarchYear
  obtain ⟨month, hMonth⟩ : ∃ month, month = (5 * day + 2) / 153 := ⟨_, rfl⟩
  dsimp only
  rw [← hMonth]
  by_cases hFebruary : month = 11
  · -- only here does it matter whether the year has a leap day
    subst hFebruary
    rw [if_neg (by decide), if_neg (by decide)]
    change (1 ≤ 2 ∧ 2 ≤ 12) ∧ 1 ≤ (day - 337 + 1).toNat ∧
      (day - 337 + 1).toNat ≤ monthLength (year + 1) 2
    rw [monthLength_february]
    split at hDay
    · next hLeap =>
        rw [if_pos hLeap]
        omega
    · next hCommon =>
        rw [if_neg hCommon]
        omega
  · have hRange : 0 ≤ month ∧ month ≤ 10 := by
      split at hDay
      · omega
      · omega
    have hLength := monthLength_of_march hRange (year + if month < 10 then 0 else 1)
    refine ⟨?_, by omega, by omega⟩
    split
    · omega
    · omega

end InMarchYear

theorem dayOfMarchYear_bounds (n : Int) :
    0 ≤ n + 719468 - marchStart (marchYear n) ∧
      n + 719468 - marchStart (marchYear n) < if isLeapYear (marchYear n + 1) then 366 else 365 := by
  obtain ⟨hFrom, hTo⟩ := marchStart_marchYear n
  rw [marchStart_succ] at hTo
  omega

@[simp]
theorem isValid_ofDayNumber (n : Int) : (ofDayNumber n).isValid = true := by
  rw [ofDayNumber_eq]
  exact isValid_inMarchYear (dayOfMarchYear_bounds n)

@[simp]
theorem dayNumber_ofDayNumber (n : Int) : (ofDayNumber n).dayNumber = n := by
  obtain ⟨hFirst, hLast⟩ := dayOfMarchYear_bounds n
  have hBelow : n + 719468 - marchStart (marchYear n) ≤ 365 := by
    split at hLast
    · omega
    · omega
  rw [ofDayNumber_eq, dayNumber_inMarchYear ⟨hFirst, hBelow⟩]
  omega

/-! ## The order of dates -/

/-- The months from January of the year 0 to the month of a date. -/
def monthIndex (d : Date) : Int :=
  12 * d.year + d.month - 1

/-- The day number of the first day of a month, the months being counted from January of the year 0. -/
def startOfMonth (index : Int) : Int :=
  dayNumber ⟨index / 12, (index % 12).toNat + 1, 1⟩

theorem startOfMonth_eq (index : Int) :
    startOfMonth index =
      marchStart ((index - 2) / 12) + (153 * ((index - 2) % 12) + 2) / 5 - 719468 := by
  unfold startOfMonth dayNumber marchStart
  dsimp only
  split
  · have hYear : (index - 2) / 12 = index / 12 - 1 := by omega
    have hMonth : (index - 2) % 12 = index % 12 + 10 := by omega
    rw [hYear, hMonth]
    omega
  · have hYear : (index - 2) / 12 = index / 12 := by omega
    have hMonth : (index - 2) % 12 = index % 12 - 2 := by omega
    rw [hYear, hMonth]
    omega

theorem startOfMonth_succ (index : Int) :
    startOfMonth (index + 1) =
      startOfMonth index + monthLength (index / 12) ((index % 12).toNat + 1) := by
  rw [startOfMonth_eq, startOfMonth_eq]
  obtain ⟨year, month, hIndex, hMonth⟩ : ∃ year month : Int, index - 2 = 12 * year + month ∧
      0 ≤ month ∧ month ≤ 11 := ⟨(index - 2) / 12, (index - 2) % 12, by omega⟩
  have hYear : (index - 2) / 12 = year := by omega
  have hRest : (index - 2) % 12 = month := by omega
  rw [hYear, hRest]
  by_cases hFebruary : month = 11
  · have hNextYear : (index + 1 - 2) / 12 = year + 1 := by omega
    have hNextRest : (index + 1 - 2) % 12 = 0 := by omega
    have hCalendarYear : index / 12 = year + 1 := by omega
    have hCalendarMonth : (index % 12).toNat + 1 = 2 := by omega
    rw [hNextYear, hNextRest, hCalendarYear, hCalendarMonth, marchStart_succ, monthLength_february,
      hFebruary]
    split
    · omega
    · omega
  · have hNextYear : (index + 1 - 2) / 12 = year := by omega
    have hNextRest : (index + 1 - 2) % 12 = month + 1 := by omega
    have hCalendarMonth :
        (index % 12).toNat + 1 = (if month < 10 then month + 3 else month - 9).toNat := by
      split
      · omega
      · omega
    rw [hNextYear, hNextRest, hCalendarMonth, monthLength_of_march ⟨hMonth.1, by omega⟩]
    omega

theorem one_le_monthLength (year : Int) (month : Nat) : 1 ≤ monthLength year month := by
  unfold monthLength
  split
  · split <;> decide
  · split <;> decide

theorem monthLength_le (year : Int) (month : Nat) : monthLength year month ≤ 31 := by
  unfold monthLength
  split
  · split <;> decide
  · split <;> decide

theorem startOfMonth_strictMono : StrictMono startOfMonth := by
  refine strictMono_int_of_lt_succ fun index => ?_
  have hLength := one_le_monthLength (index / 12) ((index % 12).toNat + 1)
  rw [startOfMonth_succ]
  omega

section Valid

variable {d e : Date}

theorem startOfMonth_monthIndex (hValid : d.isValid = true) :
    startOfMonth d.monthIndex = dayNumber d.monthStart := by
  obtain ⟨hMonth, -⟩ := isValid_iff.mp hValid
  have hYear : d.monthIndex / 12 = d.year := by
    unfold monthIndex
    omega
  have hRest : (d.monthIndex % 12).toNat + 1 = d.month := by
    unfold monthIndex
    omega
  unfold startOfMonth
  rw [hYear, hRest]
  rfl

theorem isValid_monthStart (hValid : d.isValid = true) : d.monthStart.isValid = true := by
  obtain ⟨hMonth, -⟩ := isValid_iff.mp hValid
  exact isValid_iff.mpr ⟨hMonth, le_refl 1, one_le_monthLength _ _⟩

theorem monthStart_of_first (hFirst : d.day = 1) : d.monthStart = d := by
  unfold monthStart
  rw [← hFirst]

/-- The month that follows begins with its first day, in December as in other months. -/
theorem nextMonthStart_follows (hValid : d.isValid = true) :
    d.nextMonthStart.day = 1 ∧ (1 ≤ d.nextMonthStart.month ∧ d.nextMonthStart.month ≤ 12) ∧
      d.nextMonthStart.monthIndex = d.monthIndex + 1 := by
  obtain ⟨hMonth, -⟩ := isValid_iff.mp hValid
  unfold nextMonthStart monthIndex
  split
  · next hDecember =>
      simp [hDecember]
      omega
  · simp
    omega

theorem isValid_nextMonthStart (hValid : d.isValid = true) : d.nextMonthStart.isValid = true := by
  obtain ⟨hFirst, hMonth, -⟩ := nextMonthStart_follows hValid
  rw [isValid_iff, hFirst]
  exact ⟨hMonth, le_refl 1, one_le_monthLength _ _⟩

theorem startOfMonth_monthIndex_succ (hValid : d.isValid = true) :
    startOfMonth (d.monthIndex + 1) = dayNumber d.monthStart.nextMonthStart := by
  have hStart := isValid_monthStart hValid
  obtain ⟨hFirst, -, hIndex⟩ := nextMonthStart_follows hStart
  have hNext : d.monthStart.nextMonthStart.monthIndex = d.monthIndex + 1 := hIndex
  rw [← hNext, startOfMonth_monthIndex (isValid_nextMonthStart hStart), monthStart_of_first hFirst]

theorem dayNumber_eq_add (hValid : d.isValid = true) :
    d.dayNumber = startOfMonth d.monthIndex + d.day - 1 := by
  rw [startOfMonth_monthIndex hValid]
  unfold dayNumber monthStart
  dsimp only
  omega

theorem dayNumber_within_month (hValid : d.isValid = true) :
    startOfMonth d.monthIndex ≤ d.dayNumber ∧ d.dayNumber < startOfMonth (d.monthIndex + 1) := by
  obtain ⟨hMonth, hFirst, hLast⟩ := isValid_iff.mp hValid
  have hYear : d.monthIndex / 12 = d.year := by
    unfold monthIndex
    omega
  have hRest : (d.monthIndex % 12).toNat + 1 = d.month := by
    unfold monthIndex
    omega
  rw [startOfMonth_succ, dayNumber_eq_add hValid, hYear, hRest]
  omega

/-- A day lies in a month exactly if it is not before its first day, but before that of the next. -/
theorem monthIndex_eq_iff (hValid : d.isValid = true) (index : Int) :
    d.monthIndex = index ↔ startOfMonth index ≤ d.dayNumber ∧ d.dayNumber < startOfMonth (index + 1) := by
  obtain ⟨hFrom, hTo⟩ := dayNumber_within_month hValid
  constructor
  · rintro rfl
    exact ⟨hFrom, hTo⟩
  · rintro ⟨hStart, hStop⟩
    have hNotLater : index < d.monthIndex + 1 :=
      startOfMonth_strictMono.lt_iff_lt.mp (lt_of_le_of_lt hStart hTo)
    have hNotEarlier : d.monthIndex < index + 1 :=
      startOfMonth_strictMono.lt_iff_lt.mp (lt_of_le_of_lt hFrom hStop)
    omega

/-- Dates are ordered as their days are, by month and then by day. -/
theorem dayNumber_lt_iff (hValid : d.isValid = true) (hOther : e.isValid = true) :
    d.dayNumber < e.dayNumber ↔
      d.monthIndex < e.monthIndex ∨ d.monthIndex = e.monthIndex ∧ d.day < e.day := by
  have hEarlier : ∀ {d e : Date}, d.isValid = true → e.isValid = true →
      d.monthIndex < e.monthIndex → d.dayNumber < e.dayNumber := by
    intro d e hd he hLess
    have hMonths := startOfMonth_strictMono.monotone (Int.add_one_le_iff.mpr hLess)
    exact lt_of_lt_of_le (dayNumber_within_month hd).2 (hMonths.trans (dayNumber_within_month he).1)
  rcases lt_trichotomy d.monthIndex e.monthIndex with hLess | hSame | hMore
  · simp [hLess, hEarlier hValid hOther hLess]
  · rw [dayNumber_eq_add hValid, dayNumber_eq_add hOther, hSame]
    omega
  · have hBehind := hEarlier hOther hValid hMore
    omega

/-- The days before a year begins are those of earlier years. -/
theorem dayNumber_lt_newYear_iff (hValid : d.isValid = true) (year : Int) :
    d.dayNumber < dayNumber ⟨year, 1, 1⟩ ↔ d.year < year := by
  have hNewYear : isValid ⟨year, 1, 1⟩ = true :=
    isValid_iff.mpr ⟨⟨le_refl 1, by simp⟩, le_refl 1, one_le_monthLength year 1⟩
  obtain ⟨hMonth, hDay, -⟩ := isValid_iff.mp hValid
  rw [dayNumber_lt_iff hValid hNewYear]
  unfold monthIndex
  dsimp only
  omega

/-- Later days lie in no earlier year. -/
theorem year_mono (hValid : d.isValid = true) (hOther : e.isValid = true)
    (hLe : d.dayNumber ≤ e.dayNumber) : d.year ≤ e.year := by
  have hBegun := (dayNumber_lt_newYear_iff hValid d.year).not.mpr (lt_irrefl _)
  have hNotEarlier := (dayNumber_lt_newYear_iff hOther d.year).not.mp (by omega)
  omega

/-- What is at most a year later lies in the same year or in the next one. -/
theorem year_le_succ (hValid : d.isValid = true) (hOther : e.isValid = true)
    (hNear : e.dayNumber ≤ d.dayNumber + 365) : e.year ≤ d.year + 1 := by
  have hBefore := (dayNumber_lt_newYear_iff hValid (d.year + 1)).mpr (by omega)
  have hLength : dayNumber ⟨d.year + 1, 1, 1⟩ + 365 ≤ dayNumber ⟨d.year + 2, 1, 1⟩ := by
    unfold dayNumber
    dsimp only
    omega
  have hYear := (dayNumber_lt_newYear_iff hOther (d.year + 2)).mp (by omega)
  omega

/-- A day has one date. -/
theorem eq_of_dayNumber (hValid : d.isValid = true) (hOther : e.isValid = true)
    (hSame : d.dayNumber = e.dayNumber) : d = e := by
  have hNotEarlier := (dayNumber_lt_iff hValid hOther).not.mp (by omega)
  have hNotLater := (dayNumber_lt_iff hOther hValid).not.mp (by omega)
  obtain ⟨hMonth, -⟩ := isValid_iff.mp hValid
  obtain ⟨hOtherMonth, -⟩ := isValid_iff.mp hOther
  obtain ⟨year, month, day⟩ := d
  obtain ⟨otherYear, otherMonth, otherDay⟩ := e
  unfold monthIndex at hNotEarlier hNotLater
  dsimp only at *
  have hYears : year = otherYear := by omega
  have hMonths : month = otherMonth := by omega
  have hDays : day = otherDay := by omega
  rw [hYears, hMonths, hDays]

theorem ofDayNumber_dayNumber (hValid : d.isValid = true) : ofDayNumber d.dayNumber = d :=
  eq_of_dayNumber (isValid_ofDayNumber _) hValid (dayNumber_ofDayNumber _)

end Valid

end CardLedger.Date
