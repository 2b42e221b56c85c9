import CardLedger.Proofs.Reconciliation
import CardLedger.Proofs.StageChecks

/-!
# The order of the stages

All checks of a purchase in one list. An authorization that nobody disturbs ends with the first
failure of the list; if there is none it goes through, provided that the spend windows of the instant
can be told for the snapshot. It panics where the outcome would need a local date that the calendar does
not have, and nowhere else.

The order is shown for tables whose columns hold numbers, and every run of the workflow leaves such
tables.
-/

namespace CardLedger

/-- The checks of a purchase with a card, in the order of the stages. -/
def cardChecks (z : Authorizer) (s : Store) (c : Card) (r : PurchaseRequest) (now : Instant) :
    List (Option Error) :=
  usabilityChecks z c now ++ (sufficiencyChecks c r.amount ++
    (periodChecks z s c r.amount now ++ controlChecks z s c r.merchantCategory now))

/-- All checks of a purchase in their order. -/
def purchaseChecks (z : Authorizer) (s : Store) (company : Uuid) (r : PurchaseRequest) (now : Instant) :
    List (Option Error) :=
  requestChecks company r ++
    match s.cardOf? company r.card with
    | none => [some (.cardNotFound r.card)]
    | some c => cardChecks z s c r now

variable {z : Authorizer} {s : Store} {a : Ambient} {company : Uuid} {r : PurchaseRequest}
  {now : Instant} {c : Card} {e : Error}

theorem screen_of_found (hNumeric : c.Numeric) (hAmount : isAmount r.amount = true)
    (hCard : s.cardOf? company r.card = some c) :
    z.screen s company r now =
      settle (cardChecks z s c r now) >>= fun _ => .ok (c, expiryNotes z c now) := by
  obtain ⟨hFinite, -⟩ := isAmount_iff.mp hAmount
  have hNumber := Binary64.isNaN_of_isFinite hFinite
  have hSufficient := checkSufficient_eq_settle hNumeric hNumber
  have hPeriods : z.checkPeriods s c r.amount now = settle (periodChecks z s c r.amount now) :=
    checkPeriods_eq_settle hNumeric hFinite
  unfold Authorizer.screen cardChecks
  rw [Store.getCard_eq_ok_iff.mpr hCard, ok_bind, checkUsable_eq_settle, hSufficient, hPeriods,
    checkPolicy_eq_settle, settle_append, settle_append, settle_append]
  simp only [bind_assoc, ok_bind, pure_eq_ok]

theorem screen_of_missing (hCard : s.cardOf? company r.card = none) :
    z.screen s company r now = .error (.cardNotFound r.card) := by
  unfold Authorizer.screen Store.getCard
  rw [hCard]
  rfl

/-- The stages before the commit settle the list of all checks. -/
theorem authorize_eq_settle (hNumeric : ∀ c ∈ s.cards, c.Numeric)
    (hHeard : ¬ (a.interference.storeSilent = true ∨ z.timeoutMs = 0)) :
    z.authorize s a company r now =
      settle (purchaseChecks z s company r now) >>= fun _ =>
        match s.cardOf? company r.card with
        | none => .error (.cardNotFound r.card)
        | some c => z.commit s a c r now (expiryNotes z c now) := by
  unfold Authorizer.authorize purchaseChecks
  rw [if_neg hHeard, settle_append, bind_assoc, ← check_eq_settle]
  cases hCheck : r.check company with
  | error e => rfl
  | ok u =>
      rw [ok_bind, ok_bind]
      cases hCard : s.cardOf? company r.card with
      | none =>
          rw [screen_of_missing hCard]
          rfl
      | some c =>
          have hCardNumeric := hNumeric c (Store.cardOf?_eq_some hCard).1
          rw [screen_of_found hCardNumeric (PurchaseRequest.isAmount_of_check hCheck) hCard, bind_assoc]
          rfl

/-- Once no check fails, the card is there, the amount is proper, and the balance covers it. -/
theorem found_of_no_failure (hNone : firstFailure (purchaseChecks z s company r now) = none) :
    isAmount r.amount = true ∧
      ∃ c, s.cardOf? company r.card = some c ∧ r.amount ≤ c.balance := by
  obtain ⟨hRequest, hRest⟩ := firstFailure_append_eq_none.mp hNone
  refine ⟨isAmount_iff.mpr (holds_of_firstFailure hRequest), ?_⟩
  cases hCard : s.cardOf? company r.card with
  | none =>
      rw [hCard] at hRest
      cases hRest
  | some c =>
      rw [hCard] at hRest
      obtain ⟨-, hRest⟩ := firstFailure_append_eq_none.mp hRest
      obtain ⟨hSufficient, -⟩ := firstFailure_append_eq_none.mp hRest
      exact ⟨c, rfl, holds_of_firstFailure hSufficient⟩

/-! ## Panics -/

/-- The instants whose local date a purchase may be asked for although the calendar has none. -/
inductive Dateless (z : Authorizer) (s : Store) (company : Uuid) (r : PurchaseRequest) (now : Instant) :
    Instant → Prop where
  | purchase (hNow : z.offset.localDate? now = none) : Dateless z s company r now now
  | expiry (c : Card) (hCard : s.cardOf? company r.card = some c)
      (hExpiry : z.offset.localDate? c.expiry = none) : Dateless z s company r now c.expiry

theorem isPanic_of_requestChecks (hMem : some e ∈ requestChecks company r) : e.isPanic = false := by
  unfold requestChecks at hMem
  simp only [List.mem_cons, List.not_mem_nil, or_false] at hMem
  rcases hMem with hAmount | hCategory | hCompany
  · rw [eq_of_demand hAmount]
    rfl
  · rw [eq_of_demand hCategory]
    rfl
  · rw [eq_of_demand hCompany]
    rfl

theorem isPanic_of_controlChecks {category : String} (hMem : some e ∈ controlChecks z s c category now) :
    e.isPanic = false := by
  rcases List.mem_append.mp hMem with hDecoding | hPolicy
  · obtain ⟨row, -, hFails⟩ := List.mem_map.mp hDecoding
    unfold decodingCheck at hFails
    split at hFails
    · cases hFails
      rfl
    · cases hFails
  · obtain ⟨v, -, hFails⟩ := List.mem_map.mp hPolicy
    unfold policyCheck at hFails
    split at hFails
    · cases hFails
      rfl
    · cases hFails
    · cases hFails
      rfl

/-- A card that cannot be used panics only at an expiry without a local date. -/
theorem dateless_of_usability (hCard : s.cardOf? company r.card = some c) (hPanic : e.isPanic = true)
    (hMem : some e ∈ usabilityChecks z c now) :
    ∃ i, Dateless z s company r now i ∧ e = .config (.window (.noLocalDate i z.offset)) := by
  unfold usabilityChecks at hMem
  simp only [List.mem_cons, List.not_mem_nil, or_false] at hMem
  rcases hMem with hStatus | hExpiry
  · rw [eq_of_demand hStatus] at hPanic
    cases hPanic
  · obtain rfl := eq_of_demand hExpiry
    unfold expiryFailure at hPanic ⊢
    cases hDate : z.offset.localDate? c.expiry with
    | some date =>
        rw [hDate] at hPanic
        cases hPanic
    | none => exact ⟨c.expiry, .expiry c hCard hDate, rfl⟩

theorem dateless_of_window {fault : WindowFault}
    (hWindow : z.offset.dayWindow now = .error fault ∨ z.offset.monthWindow now = .error fault)
    (hPanic : (Error.config (.window fault)).isPanic = true) :
    z.offset.localDate? now = none ∧ fault = .noLocalDate now z.offset := by
  obtain ⟨i, o, hFault⟩ := Error.isPanic_iff.mp hPanic
  cases hFault
  rcases hWindow with hDay | hMonth
  · obtain ⟨rfl, rfl, hNow⟩ := Offset.localDate?_of_dayWindow hDay
    exact ⟨hNow, rfl⟩
  · obtain ⟨rfl, rfl, hNow⟩ := Offset.localDate?_of_monthWindow hMonth
    exact ⟨hNow, rfl⟩

theorem dateless_of_periods {amount : Float} (hPanic : e.isPanic = true)
    (hMem : some e ∈ periodChecks z s c amount now) :
    z.offset.localDate? now = none ∧ e = .config (.window (.noLocalDate now z.offset)) := by
  unfold periodChecks at hMem
  simp only [List.mem_cons, List.not_mem_nil, or_false] at hMem
  rcases hMem with hDaily | hMonthly
  · rcases told_of_periodCheck hDaily.symm with ⟨denial, rfl⟩ | ⟨fault, hFault, rfl⟩
    · cases hPanic
    · obtain ⟨hNow, rfl⟩ := dateless_of_window (.inl hFault) hPanic
      exact ⟨hNow, rfl⟩
  · rcases told_of_periodCheck hMonthly.symm with ⟨denial, rfl⟩ | ⟨fault, hFault, rfl⟩
    · cases hPanic
    · obtain ⟨hNow, rfl⟩ := dateless_of_window (.inr hFault) hPanic
      exact ⟨hNow, rfl⟩

/-- A check panics at an instant without a local date: the expiry of the card or the purchase itself. -/
theorem dateless_of_check (hPanic : e.isPanic = true) (hMem : some e ∈ purchaseChecks z s company r now) :
    ∃ i, Dateless z s company r now i ∧ e = .config (.window (.noLocalDate i z.offset)) := by
  rcases List.mem_append.mp hMem with hRequest | hRest
  · exact absurd (isPanic_of_requestChecks hRequest) (ne_false_of_eq_true hPanic)
  · cases hCard : s.cardOf? company r.card with
    | none =>
        rw [hCard] at hRest
        cases List.mem_singleton.mp hRest
        cases hPanic
    | some c =>
        rw [hCard] at hRest
        simp only [cardChecks, List.mem_append] at hRest
        rcases hRest with hUsable | hSufficient | hPeriods | hControls
        · exact dateless_of_usability hCard hPanic hUsable
        · obtain ⟨denial, rfl⟩ := denied_of_sufficiency hSufficient
          cases hPanic
        · obtain ⟨hNow, rfl⟩ := dateless_of_periods hPanic hPeriods
          exact ⟨now, .purchase hNow, rfl⟩
        · exact absurd (isPanic_of_controlChecks hControls) (ne_false_of_eq_true hPanic)

/-! ## The first failure -/

section Calm

variable (hKeyed : s.CardsKeyed) (hNumeric : ∀ c ∈ s.cards, c.Numeric) (hCalm : a.interference = {})
  (hTime : z.timeoutMs ≠ 0) (hFresh : s.IsFresh (a.freshId 0))

include hNumeric hCalm hTime

theorem authorize_of_failure (hFirst : firstFailure (purchaseChecks z s company r now) = some e) :
    z.authorize s a company r now = .error e := by
  have hHeard : ¬ (a.interference.storeSilent = true ∨ z.timeoutMs = 0) := by
    rw [hCalm]
    simpa using hTime
  rw [authorize_eq_settle hNumeric hHeard, settle_of_some hFirst, error_bind]

include hKeyed hFresh

/-- Without a failure among the checks only the windows of the snapshot are still in the way. -/
theorem authorize_of_no_failure (hNone : firstFailure (purchaseChecks z s company r now) = none) :
    match z.offset.dayWindow now, z.offset.monthWindow now with
    | .ok _, .ok _ => ∃ c purchase next, s.cardOf? company r.card = some c ∧
        z.authorize s a company r now = .ok (purchase, next) ∧
        purchase.advisories = expiryNotes z c now
    | .error fault, _ => z.authorize s a company r now = .error (.config (.window fault))
    | .ok _, .error fault => z.authorize s a company r now = .error (.config (.window fault)) := by
  have hHeard : ¬ (a.interference.storeSilent = true ∨ z.timeoutMs = 0) := by
    rw [hCalm]
    simpa using hTime
  have hAuthorize : z.authorize s a company r now = _ := authorize_eq_settle hNumeric hHeard
  -- what the checks have found is what the commit needs, up to the windows of the snapshot
  obtain ⟨hAmount, c, hCard, hCovered⟩ := found_of_no_failure hNone
  obtain ⟨hMem, -⟩ := Store.cardOf?_eq_some hCard
  have hFound : s.card? c.id = some c := (Store.card?_eq_some_iff hKeyed).mpr ⟨hMem, rfl⟩
  have hAlone : s.overwriteBalance a.interference c.id = .ok s :=
    Store.overwriteBalance_of_alone (by rw [hCalm])
  rw [settle_of_none hNone, ok_bind, hCard] at hAuthorize
  dsimp only at hAuthorize
  rw [Authorizer.commit_of_covered hKeyed hAmount hFresh (by simp [hFound]) hAlone hFound hCovered
    (by rw [hCalm])] at hAuthorize
  cases hDay : z.offset.dayWindow now with
  | error fault =>
      rw [Authorizer.snapshot_of_day_fault c.id hDay] at hAuthorize
      exact hAuthorize
  | ok day =>
      cases hMonth : z.offset.monthWindow now with
      | error fault =>
          rw [Authorizer.snapshot_of_month_fault c.id hDay hMonth] at hAuthorize
          exact hAuthorize
      | ok month =>
          rw [Authorizer.snapshot_of_windows c.id hDay hMonth] at hAuthorize
          exact ⟨c, _, _, hCard, hAuthorize, rfl⟩

theorem panics_of_dateless (hNone : firstFailure (purchaseChecks z s company r now) = none)
    (hNow : z.offset.localDate? now = none) :
    z.authorize s a company r now = .error (.config (.window (.noLocalDate now z.offset))) := by
  have hEnds := authorize_of_no_failure hKeyed hNumeric hCalm hTime hFresh hNone
  rw [Offset.dayWindow_of_none hNow] at hEnds
  exact hEnds

/-- An authorization panics exactly if its first failing check does, or if no check fails and the
calendar has no local date of the purchase. -/
theorem panicked_iff :
    CallEnd.of (z.authorize s a company r now) = .panicked ↔
      ∃ i, Dateless z s company r now i ∧
        (firstFailure (purchaseChecks z s company r now) =
            some (.config (.window (.noLocalDate i z.offset))) ∨
          firstFailure (purchaseChecks z s company r now) = none ∧
            z.offset.localDate? now = none) := by
  rw [CallEnd.of_eq_panicked_iff]
  constructor
  · rintro ⟨e, hFails, hPanic⟩
    cases hFirst : firstFailure (purchaseChecks z s company r now) with
    | some failure =>
        rw [authorize_of_failure hNumeric hCalm hTime hFirst] at hFails
        cases hFails
        obtain ⟨i, hDateless, rfl⟩ := dateless_of_check hPanic (mem_of_firstFailure hFirst)
        exact ⟨i, hDateless, .inl rfl⟩
    | none =>
        have hEnds := authorize_of_no_failure hKeyed hNumeric hCalm hTime hFresh hFirst
        have hNow : z.offset.localDate? now = none := by
          cases hDay : z.offset.dayWindow now with
          | error fault =>
              rw [hDay] at hEnds
              cases hEnds.symm.trans hFails
              exact (dateless_of_window (.inl hDay) hPanic).1
          | ok day =>
              cases hMonth : z.offset.monthWindow now with
              | error fault =>
                  rw [hDay, hMonth] at hEnds
                  cases hEnds.symm.trans hFails
                  exact (dateless_of_window (.inr hMonth) hPanic).1
              | ok month =>
                  rw [hDay, hMonth] at hEnds
                  obtain ⟨c, purchase, next, -, hAuthorize, -⟩ := hEnds
                  cases hAuthorize.symm.trans hFails
        exact ⟨now, .purchase hNow, .inr ⟨rfl, hNow⟩⟩
  · rintro ⟨i, -, hFirst | ⟨hFirst, hNow⟩⟩
    · exact ⟨_, authorize_of_failure hNumeric hCalm hTime hFirst, rfl⟩
    · exact ⟨_, panics_of_dateless hKeyed hNumeric hCalm hTime hFresh hFirst hNow, rfl⟩

end Calm

theorem Card.ProperLimits.numeric (hLimits : c.ProperLimits) (hNonneg : 0 ≤ c.balance) : c.Numeric := by
  have hNumber : ∀ {x}, isAmount x = true → x.isNaN = false := fun hAmount =>
    Binary64.isNaN_of_isFinite (isAmount_iff.mp hAmount).1
  exact
    { balance := Binary64.isNaN_of_zero_le hNonneg
      spendingLimit := fun x hx => hNumber (hLimits.spending x hx)
      dailyLimit := fun x hx => hNumber (hLimits.daily x hx)
      monthlyLimit := fun x hx => hNumber (hLimits.monthly x hx) }

theorem properLimits_step {next : Store} (hChange : LedgerChange s next)
    (hLimits : ∀ c ∈ s.cards, c.ProperLimits) : ∀ c ∈ next.cards, c.ProperLimits := by
  cases hChange with
  | kept hCards hRecord =>
      rw [hCards]
      exact hLimits
  | revised id change hRevision hCards hRecord =>
      rw [hCards]
      exact Store.forall_modifyCard hRevision.limits hLimits
  | issued new hEmpty hKeyed hCards hRecord =>
      intro c hc
      rw [hCards, List.mem_append] at hc
      rcases hc with hOld | hNew
      · exact hLimits c hOld
      · exact (hEmpty c hNew).2
  | booked t hBooking =>
      obtain ⟨_, change, -, -, hBooks, hCards⟩ := hBooking.cards
      rw [hCards]
      exact Store.forall_modifyCard hBooks.limits hLimits

/-- The cards that a run of the workflow leaves behind have proper limits and balances that are
numbers. -/
theorem numeric_run (calls : List Call) : ∀ c ∈ (Store.run {} calls).cards, c.Numeric := by
  -- what a call does to the cards is known of stores with keyed cards, hence both invariants at once
  have hBoth : Reconciled (Store.run {} calls) ∧ ∀ c ∈ (Store.run {} calls).cards, c.ProperLimits := by
    refine Store.run_preserves (P := fun s => Reconciled s ∧ ∀ c ∈ s.cards, c.ProperLimits) ?_
      ⟨Reconciled.empty, by simp⟩ calls
    rintro old next call ⟨hOld, hLimits⟩ hApply
    have hChange := ledgerChange_of_apply hOld.keyed call.alone hApply
    exact ⟨hOld.step hChange, properLimits_step hChange hLimits⟩
  obtain ⟨hState, hLimits⟩ := hBoth
  intro c hc
  exact (hLimits c hc).numeric (hState.nonneg c hc)

end CardLedger
