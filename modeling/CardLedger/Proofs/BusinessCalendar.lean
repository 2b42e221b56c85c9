import CardLedger.Proofs.SpendWindow

/-!
# Business days and months on the time line

A window that can be told lies between two local midnights: a business day between those of the local
date of its instant and of the next day, a business month between those of the first days of its month
and of the month that follows. Every instant of a window has that window for its own, and where a window
ends the next one starts. So days and months leave no instant out and share none, at every offset and
in every year of the calendar.
-/

namespace CardLedger

/-- The time from one instant to a later one in whole minutes. -/
def Instant.minutesBetween (start stop : Instant) : Int :=
  (start.nanosBetween stop).tdiv (60 * 1000000000)

/-- An instant at which the local clock begins a date. -/
structure Offset.IsMidnightOf (o : Offset) (d : Date) (i : Instant) : Prop where
  date : o.localDate i = d
  time : o.localTime i = ⟨0, 0, 0⟩
  whole : i.nanos = 0

/-- The day of an instant on the business clock: 24 hours from midnight on. It tells the time of day,
leap seconds apart, and the day of each of its instants; the day after starts where it ends. -/
structure Window.IsDayOf (w : Window) (o : Offset) (now : Instant) : Prop where
  contains : w.Contains now
  start : o.IsMidnightOf (o.localDate now) w.start
  stop : w.start.addSeconds? 86400 = some w.stop
  minutes : now.nanos < 1000000000 → w.start.minutesBetween now = (o.localTime now).minuteOfDay
  shared : ∀ i, w.Contains i → o.dayWindow i = .ok w
  next : ∀ later, o.dayWindow w.stop = .ok later → later.start = w.stop

/-- The month of an instant on the business clock, from the first midnight of its month to that of the
month that follows. It is the month of each of its instants; the month after starts where it ends. -/
structure Window.IsMonthOf (w : Window) (o : Offset) (now : Instant) : Prop where
  contains : w.Contains now
  start : o.IsMidnightOf ⟨(o.localDate now).year, (o.localDate now).month, 1⟩ w.start
  stop : ∃ first : Date, o.IsMidnightOf first w.stop ∧ first.day = 1 ∧
    (1 ≤ first.month ∧ first.month ≤ 12) ∧ first.monthIndex = (o.localDate now).monthIndex + 1
  shared : ∀ i, w.Contains i → o.monthWindow i = .ok w
  next : ∀ later, o.monthWindow w.stop = .ok later → later.start = w.stop

/-! ## Local midnights -/

namespace Instant

variable {i j : Instant}

theorem ofParts?_self (i : Instant) : ofParts? i.seconds i.nanos = some i := by
  unfold ofParts?
  rw [dif_pos i.inCalendar, dif_pos i.nanosFit]

theorem addSeconds?_eq_some {count : Int} (hSeconds : j.seconds = i.seconds + count)
    (hNanos : j.nanos = i.nanos) : i.addSeconds? count = some j := by
  unfold addSeconds?
  rw [← hSeconds, ← hNanos]
  exact ofParts?_self j

end Instant

namespace Offset

variable {o : Offset} {now i start stop : Instant} {d first next : Date} {w day month : Window}

theorem localSeconds_of_midnight (hMidnight : o.midnight d = .ok i) :
    o.localSeconds i = 86400 * d.dayNumber := by
  obtain ⟨hSeconds, -⟩ := midnight_eq_ok hMidnight
  unfold localSeconds
  omega

/-- The local clock shows midnight of the date that was asked for. -/
theorem isMidnightOf_of_midnight (hValid : d.isValid = true) (hMidnight : o.midnight d = .ok i) :
    o.IsMidnightOf d i where
  date := by
    have hDay : 86400 * d.dayNumber / 86400 = d.dayNumber := by omega
    unfold localDate
    rw [localSeconds_of_midnight hMidnight, hDay, Date.ofDayNumber_dayNumber hValid]
  time := by
    have hSecond : 86400 * d.dayNumber % 86400 = 0 := by omega
    unfold localTime
    rw [localSeconds_of_midnight hMidnight, hSecond]
    rfl
  whole := (midnight_eq_ok hMidnight).2

theorem windowBetween_eq_ok (hWindow : o.windowBetween first next = .ok w) :
    o.midnight first = .ok w.start ∧ o.midnight next = .ok w.stop := by
  obtain ⟨start, hStart, hRest⟩ := bind_eq_ok_iff.mp hWindow
  obtain ⟨stop, hStop, hResult⟩ := bind_eq_ok_iff.mp hRest
  cases hResult
  exact ⟨hStart, hStop⟩

/-- Midnights are ordered as their dates are. -/
theorem le_of_midnight (hStart : o.midnight first = .ok start) (hStop : o.midnight next = .ok stop)
    (hDays : first.dayNumber ≤ next.dayNumber) : start ≤ stop := by
  obtain ⟨hSeconds, hNanos⟩ := midnight_eq_ok hStart
  obtain ⟨hOtherSeconds, hOtherNanos⟩ := midnight_eq_ok hStop
  change start.seconds < stop.seconds ∨ start.seconds = stop.seconds ∧ start.nanos ≤ stop.nanos
  omega

/-! ## Days -/

theorem dayWindow_eq_ok (hWindow : o.dayWindow now = .ok w) :
    o.midnight (o.localDate now) = .ok w.start ∧
      o.midnight (Date.ofDayNumber ((o.localDate now).dayNumber + 1)) = .ok w.stop := by
  exact windowBetween_eq_ok (windowBetween_of_dayWindow hWindow).2

theorem dayWindow_congr (hDate : o.localDate i = o.localDate now) (hWindow : o.dayWindow now = .ok w) :
    o.dayWindow i = .ok w := by
  obtain ⟨hNow, -⟩ := windowBetween_of_dayWindow hWindow
  have hOther : o.localDate? i = some (o.localDate now) := by
    unfold localDate? at hNow ⊢
    rwa [hDate]
  rw [dayWindow_of_some hOther, ← dayWindow_of_some hNow, hWindow]

/-- The minutes since midnight are those that the local clock shows. -/
theorem minutesBetween_midnight (hMidnight : o.midnight (o.localDate now) = .ok start)
    (hPlain : now.nanos < 1000000000) : start.minutesBetween now = (o.localTime now).minuteOfDay := by
  obtain ⟨hSeconds, hNanos⟩ := midnight_eq_ok hMidnight
  rw [dayNumber_localDate] at hSeconds
  -- no leap second lies between midnight and the instant
  have hNanosBetween : start.nanosBetween now =
      (o.localSeconds now % 86400) * 1000000000 + now.nanos := by
    have hLapse : now.seconds - start.seconds = o.localSeconds now % 86400 := by
      unfold localSeconds at *
      omega
    unfold Instant.nanosBetween
    rw [if_neg (show ¬ 1000000000 ≤ start.nanos by omega), if_neg (show ¬ 1000000000 ≤ now.nanos by omega),
      hLapse, hNanos]
    split
    · simp
    · simp
  have hDay : 0 ≤ o.localSeconds now % 86400 := by omega
  unfold Instant.minutesBetween LocalTime.minuteOfDay localTime
  rw [hNanosBetween, Int.tdiv_eq_ediv_of_nonneg (by omega)]
  dsimp only
  omega

theorem isDayOf_of_dayWindow (hWindow : o.dayWindow now = .ok w) : w.IsDayOf o now := by
  obtain ⟨hStart, hStop⟩ := dayWindow_eq_ok hWindow
  obtain ⟨hStartSeconds, hStartNanos⟩ := midnight_eq_ok hStart
  obtain ⟨hStopSeconds, hStopNanos⟩ := midnight_eq_ok hStop
  exact
    { contains := (contains_dayWindow hWindow).mpr rfl
      start := isMidnightOf_of_midnight isValid_localDate hStart
      stop := by
        rw [Date.dayNumber_ofDayNumber] at hStopSeconds
        exact Instant.addSeconds?_eq_some (by omega) (by omega)
      minutes := minutesBetween_midnight hStart
      shared := fun i hContains => by
        exact dayWindow_congr ((contains_dayWindow hWindow).mp hContains) hWindow
      next := fun later hLater => by
        -- the day after begins at the midnight that this one ends at
        have hMidnight := (dayWindow_eq_ok hLater).1
        rw [(isMidnightOf_of_midnight (Date.isValid_ofDayNumber _) hStop).date, hStop] at hMidnight
        exact (Except.ok.inj hMidnight).symm }

/-! ## Months -/

theorem monthWindow_eq_ok (hWindow : o.monthWindow now = .ok w) :
    o.midnight (o.localDate now).monthStart = .ok w.start ∧
      o.midnight (o.localDate now).monthStart.nextMonthStart = .ok w.stop := by
  exact windowBetween_eq_ok (windowBetween_of_monthWindow hWindow).2

theorem monthWindow_congr (hYear : (o.localDate i).year = (o.localDate now).year)
    (hMonth : (o.localDate i).month = (o.localDate now).month) (hWindow : o.monthWindow now = .ok w) :
    o.monthWindow i = .ok w := by
  obtain ⟨hNow, -⟩ := windowBetween_of_monthWindow hWindow
  have hOther : o.localDate? i = some (o.localDate i) := by
    unfold localDate? Date.inCalendar at hNow ⊢
    rw [hYear]
    split at hNow
    · next hYears => rw [if_pos hYears]
    · cases hNow
  have hStart : (o.localDate i).monthStart = (o.localDate now).monthStart := by
    unfold Date.monthStart
    rw [hYear, hMonth]
  rw [monthWindow_of_some hOther, hStart, ← monthWindow_of_some hNow, hWindow]

theorem isMonthOf_of_monthWindow (hWindow : o.monthWindow now = .ok w) : w.IsMonthOf o now := by
  obtain ⟨hStart, hStop⟩ := monthWindow_eq_ok hWindow
  have hFirst := Date.isValid_monthStart (isValid_localDate (o := o) (i := now))
  have hMidnight := isMidnightOf_of_midnight (Date.isValid_nextMonthStart hFirst) hStop
  have hFollows := Date.nextMonthStart_follows hFirst
  exact
    { contains := (contains_monthWindow hWindow).mpr ⟨rfl, rfl⟩
      start := isMidnightOf_of_midnight hFirst hStart
      stop := ⟨_, hMidnight, hFollows⟩
      shared := fun i hContains => by
        obtain ⟨hYear, hMonth⟩ := (contains_monthWindow hWindow).mp hContains
        exact monthWindow_congr hYear hMonth hWindow
      next := fun later hLater => by
        -- a first day of a month begins its own month
        have hLaterStart := (monthWindow_eq_ok hLater).1
        rw [hMidnight.date, Date.monthStart_of_first hFollows.1, hStop] at hLaterStart
        exact (Except.ok.inj hLaterStart).symm }

/-- A day is in its month. -/
theorem day_within_month (hDay : o.dayWindow now = .ok day) (hMonth : o.monthWindow now = .ok month) :
    month.start ≤ day.start ∧ day.stop ≤ month.stop := by
  obtain ⟨hStart, hStop⟩ := dayWindow_eq_ok hDay
  obtain ⟨hFirst, hNext⟩ := monthWindow_eq_ok hMonth
  obtain ⟨hFrom, hTo⟩ := Date.dayNumber_within_month (isValid_localDate (o := o) (i := now))
  rw [Date.startOfMonth_monthIndex isValid_localDate] at hFrom
  rw [Date.startOfMonth_monthIndex_succ isValid_localDate] at hTo
  refine ⟨le_of_midnight hFirst hStart hFrom, le_of_midnight hStop hNext ?_⟩
  rw [Date.dayNumber_ofDayNumber]
  omega

/-! ## Windows that can be told -/

/-- A date of the calendar whose local midnight is an instant of the calendar. -/
def HasMidnight (o : Offset) (d : Date) : Prop :=
  d.inCalendar = true ∧ firstSecond ≤ 86400 * d.dayNumber - o.seconds ∧
    86400 * d.dayNumber - o.seconds ≤ lastSecond

/-- The dates at whose local midnights the business day and the business month of an instant begin and
end. -/
def windowDates (o : Offset) (now : Instant) : List Date :=
  let today := o.localDate now
  [today, Date.ofDayNumber (today.dayNumber + 1), today.monthStart, today.monthStart.nextMonthStart]

theorem HasMidnight.exists_midnight (hMidnight : o.HasMidnight d) : ∃ i, o.midnight d = .ok i := by
  unfold Offset.midnight midnight? Instant.ofParts?
  rw [dif_pos hMidnight.2, dif_pos (.inl (by decide))]
  exact ⟨_, rfl⟩

theorem exists_windowBetween (hFirst : o.HasMidnight first) (hNext : o.HasMidnight next) :
    ∃ w, o.windowBetween first next = .ok w := by
  obtain ⟨start, hStart⟩ := hFirst.exists_midnight
  obtain ⟨stop, hStop⟩ := hNext.exists_midnight
  unfold windowBetween
  rw [hStart, hStop]
  exact ⟨_, rfl⟩

/-- A window that cannot be told lacks one of its bounds. -/
theorem bound_of_window {outside fault : WindowFault}
    (hFault : (if next.inCalendar then o.windowBetween first next else .error outside) = .error fault) :
    ¬ o.HasMidnight first ∨ ¬ o.HasMidnight next := by
  by_contra hBounds
  obtain ⟨hFirst, hNext⟩ : o.HasMidnight first ∧ o.HasMidnight next := by
    simpa using hBounds
  obtain ⟨w, hWindow⟩ := exists_windowBetween hFirst hNext
  rw [if_pos hNext.1, hWindow] at hFault
  cases hFault

/-- Without a local date the day itself has no midnight in the calendar. -/
theorem bound_of_localDate? (hDate : o.localDate? now = none) :
    ∃ d ∈ o.windowDates now, ¬ o.HasMidnight d := by
  refine ⟨o.localDate now, by simp [windowDates], fun hMidnight => ?_⟩
  exact Bool.false_ne_true ((localDate?_eq_none_iff.mp hDate).symm.trans hMidnight.1)

theorem bound_of_dayWindow {fault : WindowFault} (hFault : o.dayWindow now = .error fault) :
    ∃ d ∈ o.windowDates now, ¬ o.HasMidnight d := by
  cases hDate : o.localDate? now with
  | none => exact bound_of_localDate? hDate
  | some today =>
      rw [dayWindow_of_some hDate] at hFault
      obtain ⟨-, rfl⟩ := localDate?_eq_some_iff.mp hDate
      rcases bound_of_window hFault with hToday | hTomorrow
      · exact ⟨_, by simp [windowDates], hToday⟩
      · exact ⟨_, by simp [windowDates], hTomorrow⟩

theorem bound_of_monthWindow {fault : WindowFault} (hFault : o.monthWindow now = .error fault) :
    ∃ d ∈ o.windowDates now, ¬ o.HasMidnight d := by
  cases hDate : o.localDate? now with
  | none => exact bound_of_localDate? hDate
  | some today =>
      rw [monthWindow_of_some hDate] at hFault
      obtain ⟨-, rfl⟩ := localDate?_eq_some_iff.mp hDate
      rcases bound_of_window hFault with hFirst | hNext
      · exact ⟨_, by simp [windowDates], hFirst⟩
      · exact ⟨_, by simp [windowDates], hNext⟩

/-- Only at the ends of the calendar midnights are missing. -/
theorem hasMidnight_of_year (o : Offset) (hValid : d.isValid = true)
    (hYear : -262142 ≤ d.year ∧ d.year ≤ 262142) : o.HasMidnight d := by
  obtain ⟨hFirst, hLast⟩ := hYear
  obtain ⟨hBehind, hAhead⟩ := o.withinDay
  have hFrom := (Date.dayNumber_lt_newYear_iff hValid (-262142)).not.mpr (by omega)
  have hTo := (Date.dayNumber_lt_newYear_iff hValid 262143).mpr (by omega)
  have hStart : Date.dayNumber ⟨-262142, 1, 1⟩ = -96464927 := by decide
  have hStop : Date.dayNumber ⟨262143, 1, 1⟩ = 95026237 := by decide
  unfold HasMidnight Date.inCalendar Date.firstYear Date.lastYear firstSecond lastSecond
  refine ⟨?_, by omega, by omega⟩
  simp
  omega

theorem tomorrow_year (hYear : (o.localDate now).year ≤ 262141) :
    (o.localDate now).year ≤ (Date.ofDayNumber ((o.localDate now).dayNumber + 1)).year ∧
      (Date.ofDayNumber ((o.localDate now).dayNumber + 1)).year ≤ 262142 := by
  have hToday := isValid_localDate (o := o) (i := now)
  have hTomorrow := Date.isValid_ofDayNumber ((o.localDate now).dayNumber + 1)
  have hDay := Date.dayNumber_ofDayNumber ((o.localDate now).dayNumber + 1)
  have hBound := (Date.dayNumber_lt_newYear_iff hToday 262142).mpr (by omega)
  have hLength : Date.dayNumber ⟨262142, 1, 1⟩ < Date.dayNumber ⟨262143, 1, 1⟩ := by decide
  have hBefore := (Date.dayNumber_lt_newYear_iff hTomorrow 262143).mp (by omega)
  exact ⟨Date.year_mono hToday hTomorrow (by omega), by omega⟩

theorem nextMonth_year (hYear : (o.localDate now).year ≤ 262141) :
    (o.localDate now).year ≤ (o.localDate now).monthStart.nextMonthStart.year ∧
      (o.localDate now).monthStart.nextMonthStart.year ≤ 262142 := by
  have hToday := isValid_localDate (o := o) (i := now)
  obtain ⟨hMonth, -⟩ := Date.isValid_iff.mp hToday
  obtain ⟨-, hNextMonth, hIndex⟩ := Date.nextMonthStart_follows (Date.isValid_monthStart hToday)
  have hOwn : (o.localDate now).monthStart.monthIndex = (o.localDate now).monthIndex := rfl
  unfold Date.monthIndex at hIndex hOwn
  omega

/-- Both windows of an instant can be told, the ends of the calendar apart. -/
theorem exists_windows (hYear : -262142 ≤ (o.localDate now).year ∧ (o.localDate now).year ≤ 262141) :
    ∃ day month, o.dayWindow now = .ok day ∧ o.monthWindow now = .ok month := by
  have hToday := isValid_localDate (o := o) (i := now)
  have hFirst := Date.isValid_monthStart hToday
  have hTomorrowYear := tomorrow_year hYear.2
  have hNextYear := nextMonth_year hYear.2
  have hHasToday := o.hasMidnight_of_year hToday (by omega)
  have hTomorrow := Date.isValid_ofDayNumber ((o.localDate now).dayNumber + 1)
  have hHasTomorrow := o.hasMidnight_of_year hTomorrow (by omega)
  have hHasFirst := o.hasMidnight_of_year hFirst ⟨hYear.1, hYear.2.trans (by decide)⟩
  have hHasNext := o.hasMidnight_of_year (Date.isValid_nextMonthStart hFirst) (by omega)
  obtain ⟨day, hDay⟩ := exists_windowBetween hHasToday hHasTomorrow
  obtain ⟨month, hMonth⟩ := exists_windowBetween hHasFirst hHasNext
  have hDate : o.localDate? now = some (o.localDate now) := localDate?_eq_some_iff.mpr ⟨hHasToday.1, rfl⟩
  refine ⟨day, month, ?_, ?_⟩
  · rw [dayWindow_of_some hDate, if_pos hHasTomorrow.1, hDay]
  · rw [monthWindow_of_some hDate, if_pos hHasNext.1, hMonth]

end Offset

/-- A business day that can be told holds its instant, lasts 24 hours from local midnight on, tells the
time of day in whole minutes, and is the day of each of its instants; the day after starts where it ends.
A business month likewise goes from the first midnight of its month to that of the month that follows, and
holds the day. Both can be told in all years of the calendar but the first and the last. -/
theorem business_windows_tile (o : Offset) (now : Instant) :
    (∀ day, o.dayWindow now = .ok day → day.IsDayOf o now) ∧
      (∀ month, o.monthWindow now = .ok month → month.IsMonthOf o now) ∧
      (∀ day month, o.dayWindow now = .ok day → o.monthWindow now = .ok month →
        month.start ≤ day.start ∧ day.stop ≤ month.stop) ∧
      (-262142 ≤ (o.localDate now).year ∧ (o.localDate now).year ≤ 262141 →
        ∃ day month, o.dayWindow now = .ok day ∧ o.monthWindow now = .ok month) :=
  ⟨fun _ => Offset.isDayOf_of_dayWindow, fun _ => Offset.isMonthOf_of_monthWindow,
    fun _ _ => Offset.day_within_month, Offset.exists_windows⟩

namespace Sample

/-- A quarter past six in the morning on the first of March 2024, and half a second. -/
def afterLeapDay : Instant :=
  ⟨1709273700, 500000000, by decide, by decide⟩

/-- Four hours behind UTC. -/
def behind : Offset :=
  ⟨-14400, by decide⟩

end Sample

/-- Four hours behind UTC the first of March, and with it the month, started 135 minutes before this
instant. -/
theorem business_windows_tile_of_sample :
    ∃ day month, Sample.behind.dayWindow Sample.afterLeapDay = .ok day ∧
      Sample.behind.monthWindow Sample.afterLeapDay = .ok month ∧
      day.IsDayOf Sample.behind Sample.afterLeapDay ∧
      month.IsMonthOf Sample.behind Sample.afterLeapDay ∧
      (month.start ≤ day.start ∧ day.stop ≤ month.stop) ∧
      day.start.minutesBetween Sample.afterLeapDay = 135 := by
  obtain ⟨hDays, hMonths, hWithin, hTold⟩ := business_windows_tile Sample.behind Sample.afterLeapDay
  obtain ⟨day, month, hDay, hMonth⟩ := hTold (by decide +kernel)
  have hIsDay := hDays day hDay
  have hMinutes : day.start.minutesBetween Sample.afterLeapDay = 135 := by
    rw [hIsDay.minutes (by decide)]
    decide +kernel
  exact ⟨day, month, hDay, hMonth, hIsDay, hMonths month hMonth, hWithin day month hDay hMonth, hMinutes⟩

end CardLedger
