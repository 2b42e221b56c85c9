import CardLedger.Proofs.BusinessCalendar
import CardLedger.Proofs.StageOrder
import CardLedger.Proofs.WrittenControls

/-!
# How a purchase can fail

In a store that only the ledger itself has written to, a purchase that nobody disturbs fails for a reason
that its caller can be told: the request is not proper, the card is not there, a stage denies the
purchase, or the calendar ends before the business day or month does. The checks made before the commit
are enough for the commit, and the checks made before a control is written are enough for its evaluation.
-/

namespace CardLedger

/-! ## What a failing check tells -/

/-- The failures that the caller of a purchase has to expect. -/
inductive ExpectedFailure (z : Authorizer) (s : Store) (company : Uuid) (r : PurchaseRequest)
    (now : Instant) : Error → Prop where
  | amount (hAmount : isAmount r.amount = false) : ExpectedFailure z s company r now (.invalidAmount r.amount)
  | category (hBlank : Text.trim r.merchantCategory = "") :
      ExpectedFailure z s company r now (.invalidInput .categoryMissing)
  | company (hOther : r.company ≠ company) : ExpectedFailure z s company r now (.forbidden .otherCompany)
  | card (hMissing : s.cardOf? company r.card = none) :
      ExpectedFailure z s company r now (.cardNotFound r.card)
  | denied (denial : Denial) : ExpectedFailure z s company r now (.denied denial)
  | calendar (fault : WindowFault) (hBound : ∃ d ∈ z.offset.windowDates now, ¬ z.offset.HasMidnight d) :
      ExpectedFailure z s company r now (.config (.window fault))

variable {z : Authorizer} {s : Store} {a : Ambient} {company : Uuid} {r : PurchaseRequest}
  {now : Instant} {c : Card} {e : Error}

theorem expected_of_request (hMem : some e ∈ requestChecks company r) :
    ExpectedFailure z s company r now e := by
  unfold requestChecks at hMem
  simp only [List.mem_cons, List.not_mem_nil, or_false] at hMem
  rcases hMem with hAmount | hCategory | hCompany
  · obtain ⟨hImproper, rfl⟩ := demand_eq_some_iff.mp hAmount.symm
    exact .amount (Bool.eq_false_of_not_eq_true fun hProper => hImproper (isAmount_iff.mp hProper))
  · obtain ⟨hBlank, rfl⟩ := demand_eq_some_iff.mp hCategory.symm
    exact .category (not_not.mp hBlank)
  · obtain ⟨hOther, rfl⟩ := demand_eq_some_iff.mp hCompany.symm
    exact .company hOther

/-- A card that cannot be used denies the purchase, unless the date of its expiry is beyond the calendar. -/
theorem denied_of_usability (hReturned : e.isPanic = false) (hMem : some e ∈ usabilityChecks z c now) :
    ∃ denial, e = .denied denial := by
  unfold usabilityChecks at hMem
  simp only [List.mem_cons, List.not_mem_nil, or_false] at hMem
  rcases hMem with hStatus | hExpiry
  · exact ⟨_, eq_of_demand hStatus⟩
  · obtain rfl := eq_of_demand hExpiry
    unfold expiryFailure at hReturned ⊢
    cases hDate : z.offset.localDate? c.expiry with
    | some date => exact ⟨_, rfl⟩
    | none =>
        rw [hDate] at hReturned
        cases hReturned

theorem expected_of_periods {amount : Float} (hMem : some e ∈ periodChecks z s c amount now) :
    ExpectedFailure z s company r now e := by
  unfold periodChecks at hMem
  simp only [List.mem_cons, List.not_mem_nil, or_false] at hMem
  rcases hMem with hDaily | hMonthly
  · rcases told_of_periodCheck hDaily.symm with ⟨denial, rfl⟩ | ⟨fault, hFault, rfl⟩
    · exact .denied denial
    · exact .calendar fault (Offset.bound_of_dayWindow hFault)
  · rcases told_of_periodCheck hMonthly.symm with ⟨denial, rfl⟩ | ⟨fault, hFault, rfl⟩
    · exact .denied denial
    · exact .calendar fault (Offset.bound_of_monthWindow hFault)

/-- A control that has passed the check before it was written is never in the way of its evaluation. -/
theorem denied_of_control {v : ControlValue} {category : String} (hValid : v.validate = .ok ())
    (hCheck : policyCheck z category now v = some e) : ∃ denial, e = .denied denial := by
  obtain ⟨refusal, hRefusal⟩ := v.exists_refusal hValid category (z.offset.localTime now)
  unfold policyCheck at hCheck
  rw [hRefusal] at hCheck
  cases refusal with
  | none => cases hCheck
  | some reason => exact ⟨_, (Option.some.inj hCheck).symm⟩

theorem denied_of_controls {category : String} (hChecked : s.ControlsChecked)
    (hMem : some e ∈ controlChecks z s c category now) : ∃ denial, e = .denied denial := by
  have hRow : ∀ row ∈ s.activeControls c.id, row.IsChecked := by
    intro row hActive
    exact hChecked row (List.mem_of_mem_filter (Store.oldestFirst_perm.mem_iff.mp hActive))
  rcases List.mem_append.mp hMem with hDecoding | hPolicy
  · obtain ⟨row, hActive, hFails⟩ := List.mem_map.mp hDecoding
    obtain ⟨v, hStored, -⟩ := hRow row hActive
    unfold decodingCheck at hFails
    rw [hStored] at hFails
    cases hFails
  · obtain ⟨v, hAsked, hFails⟩ := List.mem_map.mp hPolicy
    have hDecoded : v ∈ decodedControls (s.activeControls c.id) := by
      rcases List.mem_append.mp hAsked with hCategory | hTime
      · exact List.mem_of_mem_filter hCategory
      · exact List.mem_of_mem_filter hTime
    obtain ⟨row, hActive, hRead⟩ := List.mem_filterMap.mp hDecoded
    obtain ⟨w, hStored, hValid⟩ := hRow row hActive
    rw [hStored] at hRead
    cases hRead
    exact denied_of_control hValid hFails

/-- Where the ledger alone has written controls, a check that fails tells an expected failure. -/
theorem expected_of_check (hChecked : s.ControlsChecked) (hReturned : e.isPanic = false)
    (hMem : some e ∈ purchaseChecks z s company r now) : ExpectedFailure z s company r now e := by
  rcases List.mem_append.mp hMem with hRequest | hRest
  · exact expected_of_request hRequest
  · cases hCard : s.cardOf? company r.card with
    | none =>
        rw [hCard] at hRest
        cases List.mem_singleton.mp hRest
        exact .card hCard
    | some c =>
        rw [hCard] at hRest
        simp only [cardChecks, List.mem_append] at hRest
        rcases hRest with hUsable | hSufficient | hPeriods | hControls
        · obtain ⟨denial, rfl⟩ := denied_of_usability hReturned hUsable
          exact .denied denial
        · obtain ⟨denial, rfl⟩ := denied_of_sufficiency hSufficient
          exact .denied denial
        · exact expected_of_periods hPeriods
        · obtain ⟨denial, rfl⟩ := denied_of_controls hChecked hControls
          exact .denied denial

/-! ## The commit -/

theorem expected_of_snapshot {later : Store} {id : Uuid} (hFails : z.snapshot later id c now = .error e) :
    ExpectedFailure z s company r now e := by
  cases hDay : z.offset.dayWindow now with
  | error fault =>
      rw [Authorizer.snapshot_of_day_fault id hDay] at hFails
      cases hFails
      exact .calendar fault (Offset.bound_of_dayWindow hDay)
  | ok day =>
      cases hMonth : z.offset.monthWindow now with
      | error fault =>
          rw [Authorizer.snapshot_of_month_fault id hDay hMonth] at hFails
          cases hFails
          exact .calendar fault (Offset.bound_of_monthWindow hMonth)
      | ok month =>
          rw [Authorizer.snapshot_of_windows id hDay hMonth] at hFails
          cases hFails

/-- A record under an identifier that is in use is refused by the table. -/
theorem createTransaction_of_used (new : NewTransaction) {createdAt : Instant}
    (hAmount : isAmount new.amount = true) (hUsed : ¬ s.IsFresh (a.freshId 0)) :
    s.createTransaction a new createdAt = .error (Store.duplicate "transactions") := by
  have hAny : (s.transactions.any fun old => old.id == a.freshId 0) = true := by
    simpa [Store.IsFresh] using hUsed
  unfold Store.createTransaction Store.insertTransaction
  rw [checkAmount_of_isAmount hAmount, ok_bind]
  dsimp only
  rw [NewTransaction.record_id, if_pos hAny, error_bind]

theorem commit_of_used {advisories : List Advisory} (hAmount : isAmount r.amount = true)
    (hUsed : ¬ s.IsFresh (a.freshId 0)) :
    z.commit s a c r now advisories = .error (Store.duplicate "transactions") := by
  unfold Authorizer.commit
  rw [createTransaction_of_used (r.newTransaction c) hAmount hUsed, error_bind]

/-- What the checks have found is all that the commit needs besides the windows of its snapshot and a new
identifier. -/
theorem expected_of_commit {advisories : List Advisory} (hKeyed : s.CardsKeyed)
    (hCalm : a.interference = {}) (hAmount : isAmount r.amount = true) (hMem : c ∈ s.cards)
    (hCovered : r.amount ≤ c.balance) (hTables : ¬ e.IsOfTables)
    (hFails : z.commit s a c r now advisories = .error e) : ExpectedFailure z s company r now e := by
  by_cases hFresh : s.IsFresh (a.freshId 0)
  · have hFound : s.card? c.id = some c := (Store.card?_eq_some_iff hKeyed).mpr ⟨hMem, rfl⟩
    have hAlone : s.overwriteBalance a.interference c.id = .ok s :=
      Store.overwriteBalance_of_alone (by rw [hCalm])
    rw [Authorizer.commit_of_covered hKeyed hAmount hFresh (by simp [hFound]) hAlone hFound hCovered
      (by rw [hCalm])] at hFails
    cases hSnapshot : z.snapshot (s.withPurchase a c r now) c.id c now with
    | error fault =>
        rw [hSnapshot] at hFails
        cases hFails
        exact expected_of_snapshot hSnapshot
    | ok spend =>
        rw [hSnapshot] at hFails
        cases hFails
  · rw [commit_of_used hAmount hFresh] at hFails
    cases hFails
    exact absurd ⟨_, rfl⟩ hTables

/-- In every store that a run of the workflow leaves behind, a purchase that nobody disturbs, that has
time and that the tables do not fail returns a purchase or a failure that its caller has to expect,
provided that the columns kept the payloads of the controls. In particular no stored control is in its
way, and what the checks before the commit have read holds at the commit: the record is found again, and
the balance covers the debit. -/
theorem authorize_fails_as_expected (calls : List Call) (z : Authorizer) (a : Ambient) (company : Uuid)
    (r : PurchaseRequest) (now : Instant) (e : Error) (hKeeps : ∀ call ∈ calls, call.KeepsPayloads)
    (hCalm : a.interference = {}) (hTime : z.timeoutMs ≠ 0) (hTables : ¬ e.IsOfTables)
    (hFails : CallEnd.of (z.authorize (Store.run {} calls) a company r now) = .returned (.error e)) :
    ExpectedFailure z (Store.run {} calls) company r now e ∧
      (∀ fault, e ≠ .controlConfig fault) ∧ (∀ text, e ≠ .serialization text) ∧
      (∀ transaction, e ≠ .transactionNotFound transaction) ∧
      (∀ card available required, e ≠ .insufficientBalance card available required) ∧
      ∀ card available required, e ≠ .commitConflict card available required := by
  obtain ⟨hAuthorize, hReturned⟩ := CallEnd.of_eq_error_iff.mp hFails
  have hWell := Store.WellFormed.empty.run calls
  have hHeard : ¬ (a.interference.storeSilent = true ∨ z.timeoutMs = 0) := by
    rw [hCalm]
    simpa using hTime
  have hExpected : ExpectedFailure z (Store.run {} calls) company r now e := by
    rw [authorize_eq_settle (numeric_run calls) hHeard] at hAuthorize
    cases hFirst : firstFailure (purchaseChecks z (Store.run {} calls) company r now) with
    | some failure =>
        rw [settle_of_some hFirst] at hAuthorize
        cases hAuthorize
        exact expected_of_check (Store.controlsChecked_run hKeeps) hReturned (mem_of_firstFailure hFirst)
    | none =>
        obtain ⟨hAmount, c, hCard, hCovered⟩ := found_of_no_failure hFirst
        obtain ⟨hMem, -⟩ := Store.cardOf?_eq_some hCard
        rw [settle_of_none hFirst, ok_bind, hCard] at hAuthorize
        exact expected_of_commit hWell.cardsKeyed hCalm hAmount hMem hCovered hTables hAuthorize
  refine ⟨hExpected, ?_⟩
  cases hExpected <;> exact ⟨nofun, nofun, nofun, nofun, nofun⟩

/-- At the first instant of the calendar an hour ahead of it, the business day of a purchase with a daily
limit has no beginning. -/
theorem authorize_fails_as_expected_of_sample :
    let z : Authorizer := { offset := ⟨3600, by decide⟩ }
    let r : PurchaseRequest := ⟨Sample.tenant, Sample.issued, 30, "food", none⟩
    let e : Error := .config (.window (.noMidnight ⟨-262143, 1, 1⟩ z.offset))
    CallEnd.of (z.authorize (Store.run {} Sample.opening) (Sample.surroundings 6) Sample.tenant r .first) =
        .returned (.error e) ∧
      ExpectedFailure z (Store.run {} Sample.opening) Sample.tenant r .first e := by
  intro z r e
  have hAuthorize : z.authorize (Store.run {} Sample.opening) (Sample.surroundings 6) Sample.tenant r
      .first = .error e := by
    rw [← failure?_eq_some_iff]
    decide +kernel
  have hFails := CallEnd.of_eq_error_iff.mpr ⟨hAuthorize, rfl⟩
  have hTables : ¬ e.IsOfTables := by
    rintro ⟨text, hOf⟩
    simp [e] at hOf
  have hExpected := authorize_fails_as_expected Sample.opening z (Sample.surroundings 6) Sample.tenant r
    .first e Sample.keepsPayloads_opening rfl (by decide) hTables hFails
  exact ⟨hFails, hExpected.1⟩

end CardLedger
