import CardLedger.Proofs.BusinessCalendar
import CardLedger.Proofs.Caps
import CardLedger.Proofs.SpendToDate
import CardLedger.Proofs.YearTurn

/-!
# The spend snapshot of a purchase

A purchase that goes through tells what its card has spent in the business day and in the business month
of its instant. Its own record lies in both of them, but the store looks for it by comparing texts:

* if the bounds of a window are stored in their order, the record is found, and the figure is the store's
  sum over the rows that had counted before and the record behind them (`Window.KeepsOrder.found`);
* if the year turns inside of the window, and the turn puts the later text first, no instant is between
  the bounds. The figure is 0 whatever has been spent, so that the limit of such a window is never reached
  either (`Window.not_found`).

The second case is out of reach while the bounds lie in the years of four digits.
-/

namespace CardLedger

/-! ## Windows over the turn of a year -/

namespace Window

variable {w : Window} {i : Instant}

/-- A window over no more than one turn of the year. -/
def IsShort (w : Window) : Prop :=
  w.start.date.year ≤ w.stop.date.year ∧ w.stop.date.year ≤ w.start.date.year + 1

/-- A window whose bounds are stored in their order. -/
def KeepsOrder (w : Window) : Prop :=
  w.stop.date.year = w.start.date.year ∨ Date.TurnKeepsOrder w.start.date.year

instance : Decidable w.KeepsOrder :=
  inferInstanceAs (Decidable (_ ∨ _))

/-- The comparison of texts finds what a window contains whose bounds are stored in their order. -/
theorem KeepsOrder.found (hKeeps : w.KeepsOrder) (hShort : w.IsShort) (hContains : w.Contains i) :
    (!i.storedBefore w.start && i.storedBefore w.stop) = true := by
  obtain ⟨hStart, hStop⟩ := hContains
  obtain ⟨-, hTurn⟩ := hShort
  have hFrom := Instant.year_mono (Instant.seconds_le_of_le hStart)
  have hTo := Instant.year_mono (Instant.seconds_le_of_lt hStop)
  rw [Bool.and_eq_true_iff, Bool.not_eq_true', Bool.eq_false_iff, Ne]
  have hNotEarlier := Instant.le_iff_not_lt.mp hStart
  by_cases hOld : i.date.year = w.start.date.year
  · -- the instant is in the year of the start, and only the stop may be behind the turn
    rw [Instant.storedBefore_iff_of_year hOld]
    refine ⟨hNotEarlier, ?_⟩
    by_cases hSame : w.stop.date.year = i.date.year
    · rwa [Instant.storedBefore_iff_of_year hSame.symm]
    · rw [Instant.storedBefore_iff_of_turn (by omega), hOld]
      exact hKeeps.resolve_left (by omega)
  · -- the instant is behind the turn, where the text of the start comes first
    have hTurned : w.start.storedBefore i = true := by
      rw [Instant.storedBefore_iff_of_turn (by omega)]
      exact hKeeps.resolve_left (by omega)
    refine ⟨fun hBefore => ?_, ?_⟩
    · exact lt_asymm (of_decide_eq_true hBefore) (of_decide_eq_true hTurned)
    · rwa [Instant.storedBefore_iff_of_year (by omega)]

/-- Between bounds that are stored the other way round there is no text. -/
theorem not_found (hTurned : ¬ w.KeepsOrder) (hShort : w.IsShort) (i : Instant) :
    (!i.storedBefore w.start && i.storedBefore w.stop) = false := by
  obtain ⟨hOther, hLost⟩ := not_or.mp hTurned
  obtain ⟨hFrom, hTurn⟩ := hShort
  rw [← Instant.storedBefore_iff_of_turn (b := w.stop) (by omega)] at hLost
  rw [← Bool.not_eq_true, Bool.and_eq_true_iff, Bool.not_eq_true', Bool.eq_false_iff, Ne]
  rintro ⟨hStart, hStop⟩
  -- a text between the bounds would put them in order
  unfold Instant.storedBefore at hStart hStop hLost
  rw [decide_eq_true_iff] at hStart hStop hLost
  exact hLost (lt_of_le_of_lt (not_lt.mp hStart) hStop)

theorem IsWritten.keepsOrder (hWritten : w.IsWritten) (hShort : w.IsShort) : w.KeepsOrder := by
  obtain ⟨⟨hFirst, -⟩, ⟨-, hLast⟩⟩ := hWritten
  obtain ⟨hFrom, hTo⟩ := hShort
  unfold KeepsOrder Date.TurnKeepsOrder
  omega

end Window

namespace Offset

variable {o : Offset} {now start stop : Instant} {first next : Date} {w : Window}

theorem isShort_of_midnights (hStart : o.midnight first = .ok w.start)
    (hStop : o.midnight next = .ok w.stop) (hFrom : first.dayNumber ≤ next.dayNumber)
    (hTo : next.dayNumber ≤ first.dayNumber + 31) : w.IsShort := by
  obtain ⟨hStartSeconds, -⟩ := midnight_eq_ok hStart
  obtain ⟨hStopSeconds, -⟩ := midnight_eq_ok hStop
  refine ⟨Instant.year_mono (by omega), ?_⟩
  refine Date.year_le_succ w.start.isValid_date w.stop.isValid_date ?_
  rw [Instant.dayNumber_date, Instant.dayNumber_date]
  omega

theorem isShort_of_dayWindow (hWindow : o.dayWindow now = .ok w) : w.IsShort := by
  obtain ⟨hStart, hStop⟩ := dayWindow_eq_ok hWindow
  refine isShort_of_midnights hStart hStop ?_ ?_
  · rw [Date.dayNumber_ofDayNumber]
    omega
  · rw [Date.dayNumber_ofDayNumber]
    omega

theorem isShort_of_monthWindow (hWindow : o.monthWindow now = .ok w) : w.IsShort := by
  obtain ⟨hStart, hStop⟩ := monthWindow_eq_ok hWindow
  have hLength := Date.startOfMonth_succ (o.localDate now).monthIndex
  have hMost := Date.monthLength_le ((o.localDate now).monthIndex / 12)
    (((o.localDate now).monthIndex % 12).toNat + 1)
  rw [Date.startOfMonth_monthIndex isValid_localDate,
    Date.startOfMonth_monthIndex_succ isValid_localDate] at hLength
  exact isShort_of_midnights hStart hStop (by omega) (by omega)

end Offset

/-! ## What a purchase reports -/

/-- What a purchase reports for a window. If the bounds are stored in their order, its record counts, and
the figure is the store's sum over the rows that had counted before and the record; if not, it is 0, as is
whatever is spent in the window. -/
structure Window.Reports (w : Window) (s : Store) (t : Transaction) (figure : Float) : Prop where
  included : w.KeepsOrder → t.countsIn t.cardId w = true ∧
    figure = (storedSum ((s.transactions.filter fun old => old.countsIn t.cardId w) ++ [t])).getD 0
  missed : ¬ w.KeepsOrder → figure = 0 ∧ t.countsIn t.cardId w = false ∧
    ∀ (later : Store) (card : Uuid), later.spentIn card w = 0

variable {s next : Store} {z : Authorizer} {a : Ambient} {company card : Uuid} {r : PurchaseRequest}
  {now : Instant} {t : Transaction} {w : Window}

theorem Transaction.countsIn_of_not_keepsOrder (hTurned : ¬ w.KeepsOrder) (hShort : w.IsShort) :
    t.countsIn card w = false := by
  unfold countsIn
  rw [Bool.and_assoc, Window.not_found hTurned hShort, Bool.and_false]

theorem Store.spentIn_of_not_keepsOrder (hTurned : ¬ w.KeepsOrder) (hShort : w.IsShort) :
    s.spentIn card w = 0 := by
  have hNone : (s.transactions.filter fun t => t.countsIn card w) = [] := by
    rw [List.filter_eq_nil_iff]
    intro t _
    rw [Transaction.countsIn_of_not_keepsOrder hTurned hShort]
    exact Bool.false_ne_true
  rw [spentIn_eq_storedSum, hNone, storedSum_nil]
  rfl

theorem Window.reports_of_contains (hShort : w.IsShort) (hContains : w.Contains t.createdAt)
    (hPurchase : t.IsPurchaseOf card) (hRecord : next.transactions = s.transactions ++ [t]) :
    w.Reports s t (next.spentIn card w) := by
  obtain ⟨rfl, hType, hStatus⟩ := hPurchase
  constructor
  · intro hKeeps
    have hCounts : t.countsIn t.cardId w = true := by
      unfold Transaction.countsIn
      rw [Bool.and_assoc, hKeeps.found hShort hContains, hType, hStatus]
      simp
    have hOwn : ([t].filter fun new => new.countsIn t.cardId w) = [t] := by
      simp [hCounts]
    refine ⟨hCounts, ?_⟩
    rw [Store.spentIn_eq_storedSum, hRecord, List.filter_append, hOwn]
  · intro hTurned
    exact ⟨Store.spentIn_of_not_keepsOrder hTurned hShort,
      Transaction.countsIn_of_not_keepsOrder hTurned hShort,
      fun _ _ => Store.spentIn_of_not_keepsOrder hTurned hShort⟩

/-- Others may set the balance of a card, its limits stay as they are. -/
theorem Store.limits_of_overwriteBalance {i : Interference} {held : Store} {id : Uuid} {c : Card}
    (hHeld : s.overwriteBalance i card = .ok held) (hCard : held.card? id = some c) :
    ∃ d, s.card? id = some d ∧ d.dailyLimit = c.dailyLimit ∧ d.monthlyLimit = c.monthlyLimit := by
  obtain ⟨balance, rfl⟩ := overwriteBalance_eq_ok hHeld
  rw [card?_modifyCard, Option.map_eq_some_iff] at hCard
  · obtain ⟨d, hFound, rfl⟩ := hCard
    refine ⟨d, hFound, ?_⟩
    split
    · exact ⟨rfl, rfl⟩
    · exact ⟨rfl, rfl⟩
  · exact fun _ => rfl

/-- The snapshot of a purchase is told on the store that the purchase has left, with the limits that the
card has had. -/
theorem Authorizer.spend_of_authorize {purchase : AuthorizedPurchase} (hKeyed : s.CardsKeyed)
    (hAuthorize : z.authorize s a company r now = .ok (purchase, next)) :
    ∃ c day month, s.card? r.card = some c ∧ z.offset.dayWindow now = .ok day ∧
      z.offset.monthWindow now = .ok month ∧
      purchase.spend =
        { today := next.spentIn r.card day
          remainingDaily := c.dailyLimit.map (· - next.spentIn r.card day)
          thisMonth := next.spentIn r.card month
          remainingMonthly := c.monthlyLimit.map (· - next.spentIn r.card month) } := by
  obtain ⟨-, -, -, card, advisories, hScreen, hCommit⟩ := authorize_eq_ok hAuthorize
  obtain ⟨hCard, -⟩ := screen_eq_ok hScreen
  obtain ⟨-, hId, -⟩ := Store.cardOf?_eq_some hCard
  obtain ⟨-, -, held, c, spend, hHeld, hFound, -, hSpend, hResult⟩ := commit_eq_ok hKeyed hCommit
  cases hResult
  obtain ⟨day, month, hDay, hMonth⟩ := windows_of_snapshot hSpend
  -- the limits are read again at the commit, where only the balance may be another one
  obtain ⟨d, hOwn, hDaily, hMonthly⟩ := Store.limits_of_overwriteBalance hHeld hFound
  rw [snapshot_of_windows _ hDay hMonth] at hSpend
  rw [hId] at hSpend hOwn
  refine ⟨d, day, month, hOwn, hDay, hMonth, ?_⟩
  rw [hDaily, hMonthly]
  exact (Except.ok.inj hSpend).symm

/-- A purchase that goes through adds its record to the rows, and tells for the day and for the month of
its instant what has been spent, itself included, and what this leaves of the limits that are set. If the
turn of a year inside of a window puts its bounds in the wrong order, the figure of this window is 0. -/
theorem snapshot_of_purchase (s : Store) (z : Authorizer) (a : Ambient) (company : Uuid)
    (r : PurchaseRequest) (now : Instant) (purchase : AuthorizedPurchase) (next : Store)
    (hKeyed : s.CardsKeyed) (hAuthorize : z.authorize s a company r now = .ok (purchase, next)) :
    next.transactions = s.transactions ++ [purchase.transaction] ∧
      purchase.transaction.cardId = r.card ∧ purchase.transaction.amount = r.amount ∧
      purchase.transaction.createdAt = now ∧
      ∃ c day month, s.card? r.card = some c ∧ z.offset.dayWindow now = .ok day ∧
        z.offset.monthWindow now = .ok month ∧
        day.Reports s purchase.transaction purchase.spend.today ∧
        month.Reports s purchase.transaction purchase.spend.thisMonth ∧
        (day.IsWritten → day.KeepsOrder) ∧ (month.IsWritten → month.KeepsOrder) ∧
        purchase.spend.remainingDaily = c.dailyLimit.map (· - purchase.spend.today) ∧
        purchase.spend.remainingMonthly = c.monthlyLimit.map (· - purchase.spend.thisMonth) := by
  obtain ⟨hRecord, hPurchase, hAmount, hTime⟩ := record_of_authorize hKeyed hAuthorize
  obtain ⟨c, day, month, hCard, hDay, hMonth, hSpend⟩ := Authorizer.spend_of_authorize hKeyed hAuthorize
  have hDayShort := Offset.isShort_of_dayWindow hDay
  have hMonthShort := Offset.isShort_of_monthWindow hMonth
  -- the record is of the instant whose windows are asked for
  have hInDay : day.Contains purchase.transaction.createdAt := by
    rw [hTime]
    exact (Offset.isDayOf_of_dayWindow hDay).contains
  have hInMonth : month.Contains purchase.transaction.createdAt := by
    rw [hTime]
    exact (Offset.isMonthOf_of_monthWindow hMonth).contains
  have hDayReports := Window.reports_of_contains hDayShort hInDay hPurchase hRecord
  have hMonthReports := Window.reports_of_contains hMonthShort hInMonth hPurchase hRecord
  refine ⟨hRecord, hPurchase.1, hAmount, hTime, c, day, month, hCard, hDay, hMonth, ?_⟩
  rw [hSpend]
  exact ⟨hDayReports, hMonthReports, fun hWritten => hWritten.keepsOrder hDayShort,
    fun hWritten => hWritten.keepsOrder hMonthShort, rfl, rfl⟩

namespace Sample

/-- The last noon of the year 9999 at the prime meridian. -/
def lastNoon : Instant :=
  ⟨253402257600, 0, by decide, by decide⟩

/-- A business clock at the prime meridian. -/
def meridian : Authorizer :=
  { offset := ⟨0, by decide⟩ }

/-- A store with a card that lasts beyond the year 9999. -/
def lasting : Store :=
  { cards := [{ Sample.card with expiry := .last }] }

end Sample

/-- A purchase of 30 on the first day of 1970 is in the figure of its day, which leaves 60 of the limit. -/
theorem snapshot_of_purchase_of_sample :
    ∃ purchase next, Sample.store.CardsKeyed ∧
      ({} : Authorizer).authorize Sample.store Sample.ambient Sample.company Sample.request .epoch =
        .ok (purchase, next) ∧
      next.transactions = [purchase.transaction] ∧ purchase.spend.today = 30 ∧
      purchase.spend.remainingDaily = some 60 := by
  obtain ⟨⟨purchase, next⟩, hAuthorize⟩ : ∃ result, ({} : Authorizer).authorize Sample.store
      Sample.ambient Sample.company Sample.request .epoch = .ok result := by
    refine exists_ok_of_isSome ?_
    decide +kernel
  obtain ⟨hRecord, hCardId, hAmount, -, c, day, month, hCard, hDay, -, hReports, -, hKeeps, -, hLeft, -⟩ :=
    snapshot_of_purchase Sample.store {} Sample.ambient Sample.company Sample.request .epoch purchase next
      Sample.cardsKeyed_store hAuthorize
  have hTold : Offset.standard.dayWindow .epoch =
      .ok ⟨⟨-32400, 0, by decide, by decide⟩, ⟨54000, 0, by decide, by decide⟩⟩ := by
    decide +kernel
  cases hDay.symm.trans hTold
  have hToday : purchase.spend.today = 30 := by
    rw [(hReports.included (hKeeps ⟨by decide, by decide⟩)).2]
    change (storedSum [purchase.transaction]).getD 0 = 30
    rw [getD_storedSum, List.map_singleton, hAmount]
    decide +kernel
  cases hCard
  refine ⟨purchase, next, Sample.cardsKeyed_store, hAuthorize, hRecord, hToday, ?_⟩
  rw [hLeft, hToday]
  decide +kernel

/-- A snapshot need not include its purchase: at noon of the last day of the year 9999 a purchase of 30
goes through, its record is among the rows, and the figures of the day and of the month are 0. -/
theorem snapshot_misses_purchase :
    let outcome := Sample.meridian.authorize Sample.lasting Sample.ambient Sample.company Sample.request
      Sample.lastNoon
    Sample.lasting.CardsKeyed ∧
      outcome.toOption.map (fun done => (done.1.transaction.amount, done.2.transactions.length)) =
        some (30, 1) ∧
      outcome.toOption.map (fun done => (done.1.spend.today, done.1.spend.thisMonth)) = some (0, 0) ∧
      outcome.toOption.map (fun done => (storedSum done.2.transactions).getD 0) = some 30 := by
  intro outcome
  refine ⟨?_, by decide +kernel, by decide +kernel, by decide +kernel⟩
  unfold Store.CardsKeyed
  decide

end CardLedger
