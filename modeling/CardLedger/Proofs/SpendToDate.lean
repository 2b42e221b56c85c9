import CardLedger.Proofs.SpendWindow

/-!
# Spending to date

What a card has spent in a day or in a month is the store's own sum, in the order of insertion, over
exactly the completed purchases of the card whose instants have that local date, or a local date of that
month. The rows of a store may be of any time: the texts by which they are compared tell the local dates
apart as long as the bounds of the window are in the years of four digits.
-/

namespace CardLedger

/-- The store's sum of the amounts of rows. There is none for no rows, and none that is no number. -/
def storedSum (rows : List Transaction) : Option Float :=
  if rows = [] then none
  else
    let total := Number.sum (rows.map (·.amount))
    if total.isNaN then none else some total

/-- The completed purchases of a card on the local dates that are asked for, in the order of insertion. -/
def Store.purchasesOn (s : Store) (o : Offset) (card : Uuid) (asked : Date → Prop)
    [DecidablePred asked] : List Transaction :=
  s.transactions.filter fun t =>
    decide ((t.cardId = card ∧ t.type = .purchase ∧ t.status = .completed) ∧
      asked (o.localDate t.createdAt))

variable {s : Store} {o : Offset} {card : Uuid} {now : Instant} {w : Window}

theorem storedSum_nil : storedSum [] = none := rfl

theorem getD_storedSum (rows : List Transaction) :
    (storedSum rows).getD 0 =
      if (Number.sum (rows.map (·.amount))).isNaN then 0 else Number.sum (rows.map (·.amount)) := by
  unfold storedSum
  by_cases hNone : rows = []
  · rw [if_pos hNone, hNone]
    decide
  · rw [if_neg hNone]
    dsimp only
    split
    · rfl
    · rfl

namespace Store

/-- What is spent in a window is the store's sum over the rows that count in it. -/
theorem spentIn_eq_storedSum (s : Store) (card : Uuid) (w : Window) :
    s.spentIn card w = (storedSum (s.transactions.filter fun t => t.countsIn card w)).getD 0 := by
  rw [getD_storedSum]
  rfl

/-- The rows that count in a written window are those of its local dates. -/
theorem filter_countsIn {asked : Date → Prop} [DecidablePred asked] (hWritten : w.IsWritten)
    (hWindow : ∀ i, w.Contains i ↔ asked (o.localDate i)) :
    (s.transactions.filter fun t => t.countsIn card w) = s.purchasesOn o card asked := by
  rw [countsIn_eq hWritten hWindow]
  rfl

theorem spentDuring_counts {asked : Date → Prop} [DecidablePred asked] (hWritten : w.IsWritten)
    (hWindow : ∀ i, w.Contains i ↔ asked (o.localDate i)) :
    s.spentDuring card (.ok w) = .ok ((storedSum (s.purchasesOn o card asked)).getD 0) ∧
      (s.purchasesOn o card asked = [] → s.spentDuring card (.ok w) = .ok 0) := by
  have hSpent : s.spentDuring card (.ok w) = .ok ((storedSum (s.purchasesOn o card asked)).getD 0) := by
    rw [← filter_countsIn hWritten hWindow, ← spentIn_eq_storedSum]
    rfl
  refine ⟨hSpent, fun hNone => ?_⟩
  rw [hSpent, hNone]
  rfl

end Store

/-- As long as the bounds of its window are in the years of four digits, what a card has spent in the day
(month) of an instant is the store's sum over the completed purchases of the card on the local date (in
the local month) of that instant, and nothing if there are none. -/
theorem spent_counts_local_dates (s : Store) (o : Offset) (card : Uuid) (now : Instant) :
    (∀ day, o.dayWindow now = .ok day → day.IsWritten →
      let rows := s.purchasesOn o card fun d => d = o.localDate now
      s.spentToday o card now = .ok ((storedSum rows).getD 0) ∧
        (rows = [] → s.spentToday o card now = .ok 0)) ∧
      ∀ month, o.monthWindow now = .ok month → month.IsWritten →
        let rows := s.purchasesOn o card fun d =>
          d.year = (o.localDate now).year ∧ d.month = (o.localDate now).month
        s.spentThisMonth o card now = .ok ((storedSum rows).getD 0) ∧
          (rows = [] → s.spentThisMonth o card now = .ok 0) := by
  constructor
  · intro day hDay hWritten
    unfold Store.spentToday
    rw [hDay]
    exact Store.spentDuring_counts hWritten fun _ => Offset.contains_dayWindow hDay
  · intro month hMonth hWritten
    unfold Store.spentThisMonth
    rw [hMonth]
    exact Store.spentDuring_counts hWritten fun _ => Offset.contains_monthWindow hMonth

namespace Sample

/-- Five in the morning on New Year's Day 2024 on the standard business clock, still the old year at the
prime meridian. -/
def newYear : Instant :=
  ⟨1704052800, 0, by decide, by decide⟩

/-- The business day of New Year's morning. -/
def newYearsDay : Window :=
  ⟨⟨1704034800, 0, by decide, by decide⟩, ⟨1704121200, 0, by decide, by decide⟩⟩

/-- The business month of New Year's morning. -/
def january : Window :=
  ⟨⟨1704034800, 0, by decide, by decide⟩, ⟨1706713200, 0, by decide, by decide⟩⟩

/-- A completed purchase with a card. -/
def bought (card : Uuid) (amount : Float) (createdAt : Instant) : Transaction :=
  { id := .ofNat 20, cardId := card, companyId := .ofNat 1, type := .purchase, amount
    merchantName := none, merchantCategory := none, description := "Card purchase"
    status := .completed, processedAt := some createdAt, createdAt, updatedAt := createdAt }

/-- Purchases around two midnights of the standard business clock: one in the last nanosecond of the old
year, one at New Year's midnight, one in a leap second at the end of January, and one of the far past.
The rest are a top-up, a purchase that has failed, and one with another card. -/
def aroundNewYear : Store :=
  { transactions :=
      [bought (.ofNat 2) 10 ⟨1704034799, 999999999, by decide, by decide⟩,
        bought (.ofNat 2) 20 ⟨1704034800, 0, by decide, by decide⟩,
        bought (.ofNat 2) 40 ⟨1706713199, 1500000000, by decide, by decide⟩,
        bought (.ofNat 2) 80 .first,
        { bought (.ofNat 2) 160 newYear with type := .charge },
        { bought (.ofNat 2) 320 newYear with status := .failed },
        bought (.ofNat 3) 640 newYear] }

end Sample

/-- On New Year's morning the purchase of midnight counts for the day, and the one at the end of January
for the month as well. -/
theorem spent_counts_local_dates_of_sample :
    Offset.standard.dayWindow Sample.newYear = .ok Sample.newYearsDay ∧ Sample.newYearsDay.IsWritten ∧
      Offset.standard.monthWindow Sample.newYear = .ok Sample.january ∧ Sample.january.IsWritten ∧
      Sample.aroundNewYear.spentToday .standard (.ofNat 2) Sample.newYear = .ok 20 ∧
      Sample.aroundNewYear.spentThisMonth .standard (.ofNat 2) Sample.newYear = .ok 60 := by
  obtain ⟨hDays, hMonths⟩ :=
    spent_counts_local_dates Sample.aroundNewYear .standard (.ofNat 2) Sample.newYear
  have hDay : Offset.standard.dayWindow Sample.newYear = .ok Sample.newYearsDay := by
    decide +kernel
  have hMonth : Offset.standard.monthWindow Sample.newYear = .ok Sample.january := by
    decide +kernel
  have hDayWritten : Sample.newYearsDay.IsWritten := ⟨by decide, by decide⟩
  have hMonthWritten : Sample.january.IsWritten := ⟨by decide, by decide⟩
  refine ⟨hDay, hDayWritten, hMonth, hMonthWritten, ?_, ?_⟩
  · rw [(hDays _ hDay hDayWritten).1]
    decide +kernel
  · rw [(hMonths _ hMonth hMonthWritten).1]
    decide +kernel

end CardLedger
