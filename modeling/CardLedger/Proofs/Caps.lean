import CardLedger.Proofs.SpendWindow
import CardLedger.Proofs.StageOrder

/-!
# Caps of a day and of a month

A purchase that goes through leaves what its card has spent in the business day and in the business
month within the caps, its own amount included. What counts is the time that each purchase was made for,
not the order in which purchases were made: the record keeps that time, and the sum asks for it.

The sum goes over the whole record as it stood, from before the caps were set as well.
-/

namespace CardLedger

variable {s next : Store} {z : Authorizer} {a : Ambient} {company card : Uuid} {r : PurchaseRequest}
  {now : Instant} {c : Card}

/-! ## The record of a run -/

theorem LedgerChange.record_prefix (hChange : LedgerChange s next) :
    s.transactions <+: next.transactions := by
  cases hChange with
  | kept hCards hRecord => rw [hRecord]
  | revised id change hRevision hCards hRecord => rw [hRecord]
  | issued new hEmpty hKeyed hCards hRecord => rw [hRecord]
  | booked t hBooking =>
      rw [hBooking.record]
      exact List.prefix_append _ _

theorem LedgerChange.isAmount (hChange : LedgerChange s next)
    (hAmounts : ∀ t ∈ s.transactions, isAmount t.amount = true) :
    ∀ t ∈ next.transactions, isAmount t.amount = true := by
  cases hChange with
  | kept hCards hRecord => rwa [hRecord]
  | revised id change hRevision hCards hRecord => rwa [hRecord]
  | issued new hEmpty hKeyed hCards hRecord => rwa [hRecord]
  | booked t hBooking =>
      obtain ⟨_, _, -, hCovered, -⟩ := hBooking.cards
      rw [hBooking.record]
      intro u hu
      rcases List.mem_append.mp hu with hOld | hNew
      · exact hAmounts u hOld
      · rw [List.mem_singleton.mp hNew]
        exact hCovered.amount

/-- A run adds to the record and takes nothing from it. -/
theorem record_prefix_run (hState : Reconciled s) (calls : List Call) :
    s.transactions <+: (s.run calls).transactions := by
  have hBoth : Reconciled (s.run calls) ∧ s.transactions <+: (s.run calls).transactions := by
    refine Store.run_preserves
      (P := fun later => Reconciled later ∧ s.transactions <+: later.transactions) ?_
      ⟨hState, List.prefix_rfl⟩ calls
    rintro old next call ⟨hOld, hPrefix⟩ hApply
    have hChange := ledgerChange_of_apply hOld.keyed call.alone hApply
    exact ⟨hOld.step hChange, hPrefix.trans hChange.record_prefix⟩
  exact hBoth.2

theorem isAmount_run (calls : List Call) :
    ∀ t ∈ (Store.run {} calls).transactions, isAmount t.amount = true := by
  have hBoth : Reconciled (Store.run {} calls) ∧
      ∀ t ∈ (Store.run {} calls).transactions, isAmount t.amount = true := by
    refine Store.run_preserves
      (P := fun s => Reconciled s ∧ ∀ t ∈ s.transactions, isAmount t.amount = true) ?_
      ⟨Reconciled.empty, by simp⟩ calls
    rintro old next call ⟨hOld, hAmounts⟩ hApply
    have hChange := ledgerChange_of_apply hOld.keyed call.alone hApply
    exact ⟨hOld.step hChange, hChange.isAmount hAmounts⟩
  exact hBoth.2

/-! ## What a purchase that goes through was checked for -/

theorem eq_none_of_settle {checks : List (Option Error)} {u : Unit} (hSettled : settle checks = .ok u) :
    ∀ check ∈ checks, check = none := by
  cases hFirst : firstFailure checks with
  | none =>
      intro check hMem
      exact List.findSome?_eq_none_iff.mp hFirst check hMem
  | some e =>
      rw [settle_of_some hFirst] at hSettled
      cases hSettled

theorem within_of_periodCheck {amount limit : Float} {w : Window} {denial : LimitBreach → Denial}
    (hPassed : periodCheck s card amount (some limit) (.ok w) denial = none) :
    s.spentIn card w + amount ≤ limit := by
  unfold periodCheck demand at hPassed
  by_contra hMore
  rw [Option.bind_some] at hPassed
  dsimp only at hPassed
  rw [if_neg hMore] at hPassed
  cases hPassed

/-- What a card has spent in the windows of an instant, an amount included, is within its limits. -/
structure WithinLimits (s : Store) (c : Card) (amount : Float) (day month : Window) : Prop where
  daily : ∀ limit, c.dailyLimit = some limit → s.spentIn c.id day + amount ≤ limit
  monthly : ∀ limit, c.monthlyLimit = some limit → s.spentIn c.id month + amount ≤ limit

theorem WithinLimits.of_checkPeriods {day month : Window} {amount : Float} {u : Unit}
    (hNumeric : c.Numeric) (hFinite : amount.isFinite = true) (hDay : z.offset.dayWindow now = .ok day)
    (hMonth : z.offset.monthWindow now = .ok month)
    (hPeriods : z.checkPeriods s c amount now = .ok u) : WithinLimits s c amount day month := by
  rw [checkPeriods_eq_settle hNumeric hFinite] at hPeriods
  have hNone := eq_none_of_settle hPeriods
  unfold periodChecks at hNone
  rw [hDay, hMonth] at hNone
  have hDaily := hNone _ List.mem_cons_self
  have hMonthly := hNone _ (List.mem_cons_of_mem _ List.mem_cons_self)
  constructor
  · intro limit hLimit
    rw [hLimit] at hDaily
    exact within_of_periodCheck hDaily
  · intro limit hLimit
    rw [hLimit] at hMonthly
    exact within_of_periodCheck hMonthly

theorem Authorizer.windows_of_snapshot {id : Uuid} {spend : SpendSnapshot}
    (hSpend : z.snapshot s id c now = .ok spend) :
    ∃ day month, z.offset.dayWindow now = .ok day ∧ z.offset.monthWindow now = .ok month := by
  cases hDay : z.offset.dayWindow now with
  | error fault =>
      rw [snapshot_of_day_fault id hDay] at hSpend
      cases hSpend
  | ok day =>
      cases hMonth : z.offset.monthWindow now with
      | error fault =>
          rw [snapshot_of_month_fault id hDay hMonth] at hSpend
          cases hSpend
      | ok month => exact ⟨day, month, rfl, rfl⟩

/-- A purchase that goes through has both its windows told and is within the limits of its card. -/
theorem withinLimits_of_authorize {purchase : AuthorizedPurchase} (hKeyed : s.CardsKeyed)
    (hNumeric : ∀ c ∈ s.cards, c.Numeric)
    (hAuthorize : z.authorize s a company r now = .ok (purchase, next)) :
    ∃ c day month, s.card? r.card = some c ∧ z.offset.dayWindow now = .ok day ∧
      z.offset.monthWindow now = .ok month ∧ WithinLimits s c r.amount day month := by
  obtain ⟨hCheck, -, -, c, advisories, hScreen, hCommit⟩ := Authorizer.authorize_eq_ok hAuthorize
  obtain ⟨hCard, -, -, hPeriods, -⟩ := Authorizer.screen_eq_ok hScreen
  obtain ⟨hMem, hId, -⟩ := Store.cardOf?_eq_some hCard
  obtain ⟨-, -, _, _, _, -, -, -, hSpend, -⟩ := Authorizer.commit_eq_ok hKeyed hCommit
  obtain ⟨day, month, hDay, hMonth⟩ := Authorizer.windows_of_snapshot hSpend
  obtain ⟨hFinite, -⟩ := isAmount_iff.mp (PurchaseRequest.isAmount_of_check hCheck)
  exact ⟨c, day, month, (Store.card?_eq_some_iff hKeyed).mpr ⟨hMem, hId⟩, hDay, hMonth,
    .of_checkPeriods (hNumeric c hMem) hFinite hDay hMonth hPeriods⟩

/-- A purchase that goes through adds its own completed row, of the time that it was made for. -/
theorem record_of_authorize {purchase : AuthorizedPurchase} (hKeyed : s.CardsKeyed)
    (hAuthorize : z.authorize s a company r now = .ok (purchase, next)) :
    next.transactions = s.transactions ++ [purchase.transaction] ∧
      purchase.transaction.IsPurchaseOf r.card ∧ purchase.transaction.amount = r.amount ∧
      purchase.transaction.createdAt = now := by
  obtain ⟨-, -, -, c, advisories, hScreen, hCommit⟩ := Authorizer.authorize_eq_ok hAuthorize
  obtain ⟨hCard, -⟩ := Authorizer.screen_eq_ok hScreen
  obtain ⟨-, hId, -⟩ := Store.cardOf?_eq_some hCard
  obtain ⟨-, -, held, _, _, hHeld, -, -, -, hResult⟩ := Authorizer.commit_eq_ok hKeyed hCommit
  cases hResult
  refine ⟨?_, ⟨hId, rfl, rfl⟩, rfl, rfl⟩
  rw [Store.withPurchase_transactions, Store.transactions_overwriteBalance hHeld]
  rfl

/-- While a card keeps its limits and the business clock its offset, in whatever order of time purchases
are made: each that goes through adds to the record a completed row of its own time, and what the card
had spent before it in the business day of that time, together with its amount, is within the daily
limit, and likewise for the business month. Both windows have to lie in the years of four digits. -/
theorem spent_within_caps (before segment : List Call) (card : Uuid) (o : Offset)
    (daily monthly : Option Float)
    (hOffset : ∀ call ∈ segment, ∀ z company r now,
      call.operation = .authorize z company r now → z.offset = o)
    (hLimits : ∀ n ≤ segment.length, ∀ c,
      (Store.run {} (before ++ segment.take n)).card? card = some c →
        c.dailyLimit = daily ∧ c.monthlyLimit = monthly) :
    ∀ earlier call later z company r now purchase next, segment = earlier ++ call :: later →
      call.operation = .authorize z company r now → r.card = card →
      z.authorize (Store.run {} (before ++ earlier)) call.ambient company r now =
        .ok (purchase, next) →
      let rows := (Store.run {} (before ++ earlier)).transactions
      (∃ rest, (Store.run {} (before ++ segment)).transactions = rows ++ purchase.transaction :: rest) ∧
        purchase.transaction.IsPurchaseOf card ∧ purchase.transaction.amount = r.amount ∧
        purchase.transaction.createdAt = now ∧
        ∃ day month, o.dayWindow now = .ok day ∧ o.monthWindow now = .ok month ∧
          (day.IsWritten → ∀ cap, daily = some cap →
            spentOn o card (fun d => d = o.localDate now) rows + r.amount ≤ cap) ∧
          (month.IsWritten → ∀ cap, monthly = some cap →
            spentOn o card (fun d => d.year = (o.localDate now).year ∧
              d.month = (o.localDate now).month) rows + r.amount ≤ cap) := by
  rintro earlier call later z company r now purchase next rfl hOperation rfl hAuthorize rows
  obtain rfl : z.offset = o := hOffset call (by simp) z company r now hOperation
  have hState : Reconciled (Store.run {} (before ++ earlier)) := Reconciled.empty.run _
  obtain ⟨c, day, month, hCard, hDay, hMonth, hWithin⟩ :=
    withinLimits_of_authorize hState.keyed (numeric_run _) hAuthorize
  obtain ⟨-, hId⟩ := Store.mem_of_card? hCard
  obtain ⟨hDaily, hMonthly⟩ := hLimits earlier.length (by simp) c (by simpa using hCard)
  have hAmounts : ∀ t ∈ rows, 0 ≤ t.amount := fun t ht =>
    Binary64.le_of_lt (isAmount_iff.mp (isAmount_run _ t ht)).2
  obtain ⟨hRecord, hPurchase, hAmount, hTime⟩ := record_of_authorize hState.keyed hAuthorize
  refine ⟨?_, hPurchase, hAmount, hTime, day, month, hDay, hMonth, ?_, ?_⟩
  · -- the calls that follow add to the record that the purchase has left
    have hApply : call.operation.apply (Store.run {} (before ++ earlier)) call.ambient = .ok next := by
      rw [hOperation]
      exact congrArg (Except.map (·.2)) hAuthorize
    have hNext : Store.run {} (before ++ (earlier ++ call :: later)) = next.run later := by
      rw [← List.append_assoc, Store.run_append]
      exact congrArg (Store.run · later) (Store.after_of_ok hApply)
    have hNextState : Reconciled next :=
      hState.step (ledgerChange_of_apply hState.keyed call.alone hApply)
    obtain ⟨rest, hRest⟩ := record_prefix_run hNextState later
    refine ⟨rest, ?_⟩
    rw [hNext, ← hRest, hRecord]
    simp [rows]
  · intro hWritten cap hCap
    have hSpent : (Store.run {} (before ++ earlier)).spentIn c.id day =
        spentOn z.offset c.id (fun d => d = z.offset.localDate now) rows :=
      Store.spentIn_eq hAmounts hWritten fun _ => Offset.contains_dayWindow hDay
    rw [← hId, ← hSpent]
    exact hWithin.daily cap (hDaily.trans hCap)
  · intro hWritten cap hCap
    have hSpent : (Store.run {} (before ++ earlier)).spentIn c.id month =
        spentOn z.offset c.id (fun d => d.year = (z.offset.localDate now).year ∧
          d.month = (z.offset.localDate now).month) rows :=
      Store.spentIn_eq hAmounts hWritten fun _ => Offset.contains_monthWindow hMonth
    rw [← hId, ← hSpent]
    exact hWithin.monthly cap (hMonthly.trans hCap)

namespace Sample

/-- Eleven in the morning of the third of January 1970 on the standard business clock. -/
def morning : Instant :=
  ⟨180000, 0, by decide, by decide⟩

/-- One at night of the same business day, which is still the second elsewhere. -/
def night : Instant :=
  ⟨144000, 0, by decide, by decide⟩

/-- Two purchases of one business day, the second made for an earlier time and over the limit. -/
def dayOfPurchases : List Call :=
  [purchase 6 60 morning, purchase 7 40 night]

end Sample

/-- After 60 in the morning, and 40 that were refused, a purchase of 30 made for the night before it goes
through under a limit of 90. -/
theorem spent_within_caps_of_sample :
    let segment := Sample.dayOfPurchases ++ [Sample.purchase 8 30 Sample.night]
    let s := Store.run {} (Sample.opening ++ Sample.dayOfPurchases)
    (∀ n ≤ segment.length, ∀ c,
      (Store.run {} (Sample.opening ++ segment.take n)).card? Sample.issued = some c →
        c.dailyLimit = some 90 ∧ c.monthlyLimit = none) ∧
      (∃ result, ({} : Authorizer).authorize s (Sample.surroundings 8) Sample.tenant
        ⟨Sample.tenant, Sample.issued, 30, "food", none⟩ Sample.night = .ok result) ∧
      spentOn .standard Sample.issued (fun d => d = Offset.standard.localDate Sample.night)
        s.transactions + 30 ≤ 90 := by
  intro segment s
  have hLimits : ∀ n ≤ segment.length, ∀ c,
      (Store.run {} (Sample.opening ++ segment.take n)).card? Sample.issued = some c →
        c.dailyLimit = some 90 ∧ c.monthlyLimit = none := by
    have hTold : ∀ n ≤ segment.length,
        ((Store.run {} (Sample.opening ++ segment.take n)).card? Sample.issued).map
          (fun c => (c.dailyLimit, c.monthlyLimit)) = some (some 90, none) := by
      decide +kernel
    intro n hn c hCard
    have hPair := hTold n hn
    rw [hCard] at hPair
    exact Prod.mk.inj (Option.some.inj hPair)
  have hOffset : ∀ call ∈ segment, ∀ z company r now,
      call.operation = .authorize z company r now → z.offset = .standard := by
    intro call hCall z company r now hOperation
    simp only [segment, Sample.dayOfPurchases, Sample.purchase, Sample.call, List.cons_append,
      List.nil_append, List.mem_cons, List.not_mem_nil, or_false] at hCall
    rcases hCall with rfl | rfl | rfl
    all_goals
      cases hOperation
      rfl
  obtain ⟨⟨purchase, next⟩, hAuthorize⟩ : ∃ result, ({} : Authorizer).authorize s
      (Sample.surroundings 8) Sample.tenant ⟨Sample.tenant, Sample.issued, 30, "food", none⟩
        Sample.night = .ok result := by
    refine exists_ok_of_isSome ?_
    decide +kernel
  obtain ⟨-, -, -, -, day, month, hDay, -, hDaily, -⟩ :=
    spent_within_caps Sample.opening segment Sample.issued .standard (some 90) none hOffset hLimits
      Sample.dayOfPurchases (Sample.purchase 8 30 Sample.night) [] {} Sample.tenant
      ⟨Sample.tenant, Sample.issued, 30, "food", none⟩ Sample.night purchase next rfl rfl rfl hAuthorize
  have hWritten : day.IsWritten := by
    have hTold : Offset.standard.dayWindow Sample.night =
        .ok ⟨⟨140400, 0, by decide, by decide⟩, ⟨226800, 0, by decide, by decide⟩⟩ := by
      decide +kernel
    cases hDay.symm.trans hTold
    constructor
    · unfold Instant.InWrittenYears
      decide
    · unfold Instant.InWrittenYears
      decide
  exact ⟨hLimits, ⟨_, hAuthorize⟩, hDaily hWritten 90 rfl⟩

end CardLedger
