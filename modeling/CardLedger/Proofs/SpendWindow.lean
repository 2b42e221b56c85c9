import CardLedger.Proofs.Binary64
import CardLedger.Proofs.Outcome
import CardLedger.Proofs.TimestampOrder
import CardLedger.Transactions

/-!
# Spend windows and the local calendar

A window between two local midnights holds the instants of certain local dates. The store looks for
them by comparing texts, and finds the same rows as long as the bounds of the window lie in the years
of four digits. Rows outside of these years may be in the record, they are in no such window.
-/

namespace CardLedger

/-- An instant that is not before a window's start, but before its end. -/
def Window.Contains (w : Window) (i : Instant) : Prop :=
  w.start ≤ i ∧ i < w.stop

/-- A window whose bounds lie in the years that are written in four digits. -/
structure Window.IsWritten (w : Window) : Prop where
  start : w.start.InWrittenYears
  stop : w.stop.InWrittenYears

/-- What a written window holds is in the written years itself. -/
theorem Window.IsWritten.of_contains {w : Window} {i : Instant} (hWritten : w.IsWritten)
    (hContains : w.Contains i) : i.InWrittenYears := by
  obtain ⟨hStart, hStop⟩ := hContains
  have hFrom := Instant.year_mono (Instant.seconds_le_of_le hStart)
  have hTo := Instant.year_mono (Instant.seconds_le_of_lt hStop)
  exact ⟨hWritten.start.1.trans hFrom, hTo.trans hWritten.stop.2⟩

/-- The comparison of texts finds what a written window contains. -/
theorem Window.IsWritten.found_iff {w : Window} {i : Instant} (hWritten : w.IsWritten) :
    (!i.storedBefore w.start && i.storedBefore w.stop) = true ↔ w.Contains i := by
  rw [Bool.and_eq_true_iff, Bool.not_eq_true', Bool.eq_false_iff, Ne]
  by_cases hYears : i.InWrittenYears
  · rw [Instant.storedBefore_iff hYears hWritten.start, Instant.storedBefore_iff hYears hWritten.stop,
      ← Instant.le_iff_not_lt]
    rfl
  · -- such a row is stored before the start, and it is in no written window
    constructor
    · rintro ⟨hNotBefore, -⟩
      exact absurd (Instant.storedBefore_of_signed hYears hWritten.start) hNotBefore
    · intro hContains
      exact absurd (hWritten.of_contains hContains) hYears

/-! ## Windows between midnights -/

namespace Offset

variable {o : Offset} {now i : Instant} {d first next : Date} {w : Window}

@[simp]
theorem dayNumber_localDate : (o.localDate i).dayNumber = o.localSeconds i / 86400 :=
  Date.dayNumber_ofDayNumber _

theorem isValid_localDate : (o.localDate i).isValid = true :=
  Date.isValid_ofDayNumber _

theorem midnight_eq_ok (hMidnight : o.midnight first = .ok i) :
    i.seconds = 86400 * first.dayNumber - o.seconds ∧ i.nanos = 0 := by
  unfold midnight midnight? Instant.ofParts? at hMidnight
  split at hMidnight
  · next hFound =>
      cases hMidnight
      split at hFound
      · split at hFound
        · cases hFound
          exact ⟨rfl, rfl⟩
        · cases hFound
      · cases hFound
  · cases hMidnight

/-- A window between two midnights holds the days from the first date on up to the next one. -/
theorem contains_windowBetween (hWindow : o.windowBetween first next = .ok w) :
    w.Contains i ↔ first.dayNumber ≤ (o.localDate i).dayNumber ∧
      (o.localDate i).dayNumber < next.dayNumber := by
  obtain ⟨start, hStart, hRest⟩ := bind_eq_ok_iff.mp hWindow
  obtain ⟨stop, hStop, hResult⟩ := bind_eq_ok_iff.mp hRest
  cases hResult
  obtain ⟨hStartSeconds, hStartNanos⟩ := midnight_eq_ok hStart
  obtain ⟨hStopSeconds, hStopNanos⟩ := midnight_eq_ok hStop
  rw [dayNumber_localDate]
  unfold localSeconds
  change (start.seconds < i.seconds ∨ start.seconds = i.seconds ∧ start.nanos ≤ i.nanos) ∧
    (i.seconds < stop.seconds ∨ i.seconds = stop.seconds ∧ i.nanos < stop.nanos) ↔ _
  omega

/-! ### Local dates of the calendar -/

theorem localDate?_eq_some_iff :
    o.localDate? i = some d ↔ (o.localDate i).inCalendar = true ∧ o.localDate i = d := by
  unfold localDate?
  split
  · next hDate => simp [hDate]
  · next hDate => simp [hDate]

theorem localDate?_eq_none_iff : o.localDate? i = none ↔ (o.localDate i).inCalendar = false := by
  unfold localDate?
  split
  · next hDate => simp [hDate]
  · next hDate => simpa using hDate

theorem readDate_of_some (hDate : o.localDate? i = some d) : o.readDate i = .ok d := by
  unfold readDate
  rw [hDate]

theorem readDate_of_none (hDate : o.localDate? i = none) :
    o.readDate i = .error (.noLocalDate i o) := by
  unfold readDate
  rw [hDate]

theorem dayWindow_of_none (hDate : o.localDate? now = none) :
    o.dayWindow now = .error (.noLocalDate now o) := by
  unfold dayWindow
  rw [readDate_of_none hDate, error_bind]

theorem monthWindow_of_none (hDate : o.localDate? now = none) :
    o.monthWindow now = .error (.noLocalDate now o) := by
  unfold monthWindow
  rw [readDate_of_none hDate, error_bind]

theorem dayWindow_of_some (hDate : o.localDate? now = some d) :
    o.dayWindow now =
      if (Date.ofDayNumber (d.dayNumber + 1)).inCalendar then
        o.windowBetween d (Date.ofDayNumber (d.dayNumber + 1))
      else .error (.noNextDay d) := by
  unfold dayWindow
  rw [readDate_of_some hDate, ok_bind]

theorem monthWindow_of_some (hDate : o.localDate? now = some d) :
    o.monthWindow now =
      if d.monthStart.nextMonthStart.inCalendar then
        o.windowBetween d.monthStart d.monthStart.nextMonthStart
      else .error (.noNextMonth d.monthStart) := by
  unfold monthWindow
  rw [readDate_of_some hDate, ok_bind]

/-- A day that can be told is a window from its local date to the next. -/
theorem windowBetween_of_dayWindow (hWindow : o.dayWindow now = .ok w) :
    o.localDate? now = some (o.localDate now) ∧
      o.windowBetween (o.localDate now) (Date.ofDayNumber ((o.localDate now).dayNumber + 1)) = .ok w := by
  cases hDate : o.localDate? now with
  | none =>
      rw [dayWindow_of_none hDate] at hWindow
      cases hWindow
  | some d =>
      rw [dayWindow_of_some hDate] at hWindow
      obtain ⟨-, rfl⟩ := localDate?_eq_some_iff.mp hDate
      split at hWindow
      · exact ⟨rfl, hWindow⟩
      · cases hWindow

/-- A month that can be told is a window from its first date to that of the next month. -/
theorem windowBetween_of_monthWindow (hWindow : o.monthWindow now = .ok w) :
    o.localDate? now = some (o.localDate now) ∧
      o.windowBetween (o.localDate now).monthStart (o.localDate now).monthStart.nextMonthStart =
        .ok w := by
  cases hDate : o.localDate? now with
  | none =>
      rw [monthWindow_of_none hDate] at hWindow
      cases hWindow
  | some d =>
      rw [monthWindow_of_some hDate] at hWindow
      obtain ⟨-, rfl⟩ := localDate?_eq_some_iff.mp hDate
      split at hWindow
      · exact ⟨rfl, hWindow⟩
      · cases hWindow

/-- Between two dates it is a midnight that cannot be told. -/
theorem noMidnight_of_windowBetween {fault : WindowFault} (hFault : o.windowBetween first next = .error fault) :
    ∃ date, fault = .noMidnight date o := by
  have hMidnight : ∀ date, o.midnight date = .error fault → fault = .noMidnight date o := by
    intro date hMissing
    unfold midnight at hMissing
    split at hMissing
    · cases hMissing
    · cases hMissing
      rfl
  rcases bind_eq_error_iff.mp hFault with hStart | ⟨start, -, hRest⟩
  · exact ⟨first, hMidnight first hStart⟩
  · rcases bind_eq_error_iff.mp hRest with hStop | ⟨stop, -, hResult⟩
    · exact ⟨next, hMidnight next hStop⟩
    · cases hResult

/-- The day of an instant makes a call panic only where the calendar has no local date of it. -/
theorem localDate?_of_dayWindow {p : Offset} (hFault : o.dayWindow now = .error (.noLocalDate i p)) :
    i = now ∧ p = o ∧ o.localDate? now = none := by
  cases hDate : o.localDate? now with
  | none =>
      rw [dayWindow_of_none hDate] at hFault
      cases hFault
      exact ⟨rfl, rfl, rfl⟩
  | some d =>
      rw [dayWindow_of_some hDate] at hFault
      split at hFault
      · obtain ⟨date, hOther⟩ := noMidnight_of_windowBetween hFault
        cases hOther
      · cases hFault

theorem localDate?_of_monthWindow {p : Offset} (hFault : o.monthWindow now = .error (.noLocalDate i p)) :
    i = now ∧ p = o ∧ o.localDate? now = none := by
  cases hDate : o.localDate? now with
  | none =>
      rw [monthWindow_of_none hDate] at hFault
      cases hFault
      exact ⟨rfl, rfl, rfl⟩
  | some d =>
      rw [monthWindow_of_some hDate] at hFault
      split at hFault
      · obtain ⟨date, hOther⟩ := noMidnight_of_windowBetween hFault
        cases hOther
      · cases hFault

/-! ### What windows hold -/

/-- The business day of an instant holds the instants of its local date. -/
theorem contains_dayWindow (hWindow : o.dayWindow now = .ok w) :
    w.Contains i ↔ o.localDate i = o.localDate now := by
  obtain ⟨-, hBetween⟩ := windowBetween_of_dayWindow hWindow
  rw [contains_windowBetween hBetween, Date.dayNumber_ofDayNumber]
  constructor
  · intro hDay
    refine congrArg Date.ofDayNumber ?_
    rw [dayNumber_localDate, dayNumber_localDate] at hDay
    omega
  · intro hDate
    rw [hDate]
    omega

/-- The business month of an instant holds the instants whose local date is in its month. -/
theorem contains_monthWindow (hWindow : o.monthWindow now = .ok w) :
    w.Contains i ↔ (o.localDate i).year = (o.localDate now).year ∧
      (o.localDate i).month = (o.localDate now).month := by
  obtain ⟨-, hBetween⟩ := windowBetween_of_monthWindow hWindow
  rw [contains_windowBetween hBetween, ← Date.startOfMonth_monthIndex isValid_localDate,
    ← Date.startOfMonth_monthIndex_succ isValid_localDate,
    ← Date.monthIndex_eq_iff isValid_localDate]
  obtain ⟨hMonth, -⟩ := Date.isValid_iff.mp (isValid_localDate (o := o) (i := i))
  obtain ⟨hOther, -⟩ := Date.isValid_iff.mp (isValid_localDate (o := o) (i := now))
  unfold Date.monthIndex
  omega

end Offset

/-! ## What counts as spending -/

/-- A purchase of a card that has been completed. -/
def Transaction.IsPurchaseOf (t : Transaction) (card : Uuid) : Prop :=
  t.cardId = card ∧ t.type = .purchase ∧ t.status = .completed

instance (t : Transaction) (card : Uuid) : Decidable (t.IsPurchaseOf card) :=
  inferInstanceAs (Decidable (_ ∧ _ ∧ _))

theorem Transaction.countsIn_iff {t : Transaction} {card : Uuid} {w : Window} (hWritten : w.IsWritten) :
    t.countsIn card w = true ↔ t.IsPurchaseOf card ∧ w.Contains t.createdAt := by
  unfold countsIn IsPurchaseOf
  rw [Bool.and_assoc, Bool.and_eq_true_iff, hWritten.found_iff]
  simp [and_assoc]

/-- The amounts of the completed purchases of a card among rows, on the local dates that are asked for,
added up the way the store does. -/
def spentOn (o : Offset) (card : Uuid) (asked : Date → Prop) [DecidablePred asked]
    (rows : List Transaction) : Float :=
  Number.sum ((rows.filter fun t =>
    decide (t.IsPurchaseOf card ∧ asked (o.localDate t.createdAt))).map (·.amount))

theorem countsIn_eq {o : Offset} {card : Uuid} {asked : Date → Prop} [DecidablePred asked] {w : Window}
    (hWritten : w.IsWritten) (hWindow : ∀ i, w.Contains i ↔ asked (o.localDate i)) :
    (fun t : Transaction => t.countsIn card w) =
      fun t => decide (t.IsPurchaseOf card ∧ asked (o.localDate t.createdAt)) := by
  funext t
  rw [Bool.eq_iff_iff, decide_eq_true_iff, Transaction.countsIn_iff hWritten, hWindow]

/-! ## Sums that are numbers -/

namespace Number

theorem zero_le_total_add {r : Running} {x : Float} (hTotal : 0 ≤ r.total) (hx : 0 ≤ x) :
    0 ≤ (r.add x).total :=
  Binary64.add_nonneg hTotal hx

theorem zero_le_total_foldl {xs : List Float} (hxs : ∀ x ∈ xs, 0 ≤ x) {r : Running}
    (hTotal : 0 ≤ r.total) : 0 ≤ (xs.foldl Running.add r).total := by
  induction xs generalizing r with
  | nil => exact hTotal
  | cons x rest ih =>
      refine ih (fun y hy => hxs y (List.mem_cons_of_mem x hy)) ?_
      exact zero_le_total_add hTotal (hxs x List.mem_cons_self)

/-- A sum of numbers that are not negative is a number, even if it leaves the finite ones. -/
theorem isNaN_sum {xs : List Float} (hxs : ∀ x ∈ xs, 0 ≤ x) : (sum xs).isNaN = false := by
  have hTotal := Binary64.isNaN_of_zero_le (zero_le_total_foldl hxs (r := ⟨0, 0⟩) (by decide))
  unfold sum Running.result
  split
  · next hFinite => exact Binary64.isNaN_add hTotal hFinite
  · exact hTotal

end Number

/-- What a card has spent in a window is the sum over its purchases of the window's dates. -/
theorem Store.spentIn_eq {s : Store} {o : Offset} {card : Uuid} {asked : Date → Prop}
    [DecidablePred asked] {w : Window} (hAmounts : ∀ t ∈ s.transactions, 0 ≤ t.amount)
    (hWritten : w.IsWritten) (hWindow : ∀ i, w.Contains i ↔ asked (o.localDate i)) :
    s.spentIn card w = spentOn o card asked s.transactions := by
  have hNumber : (spentOn o card asked s.transactions).isNaN = false := by
    refine Number.isNaN_sum fun x hx => ?_
    obtain ⟨t, ht, rfl⟩ := List.mem_map.mp hx
    exact hAmounts t (List.mem_of_mem_filter ht)
  unfold spentIn
  rw [countsIn_eq hWritten hWindow]
  change (if (spentOn o card asked s.transactions).isNaN then 0 else _) = _
  rw [hNumber]
  rfl

end CardLedger
