import CardLedger.Proofs.Purchase
import CardLedger.Proofs.SpendWindow

/-!
# Checks of the stages

The checks of a purchase stage by stage, as lists in the order in which they are made, each check with
the failure that it tells when its condition does not hold. Each stage is shown to settle its list.

The conditions are stated the way a reader of the ledger would state them. Where the code asks for the
opposite comparison, the two agree because the operands are numbers.
-/

namespace CardLedger

/-! ## Checks made one after the other -/

/-- The failure of a check whose condition does not hold. -/
def demand (condition : Prop) [Decidable condition] (failure : Error) : Option Error :=
  if condition then none else some failure

/-- The first failure of a list of checks. -/
def firstFailure (checks : List (Option Error)) : Option Error :=
  checks.findSome? id

/-- What comes of checks made one after the other. -/
def settle (checks : List (Option Error)) : Except Error Unit :=
  match firstFailure checks with
  | some e => .error e
  | none => .ok ()

variable {checks more : List (Option Error)} {e : Error}

theorem settle_of_some (hFirst : firstFailure checks = some e) : settle checks = .error e := by
  unfold settle
  rw [hFirst]

theorem settle_of_none (hNone : firstFailure checks = none) : settle checks = .ok () := by
  unfold settle
  rw [hNone]

theorem settle_eq_ok_iff : settle checks = .ok () ↔ firstFailure checks = none := by
  refine ⟨fun hSettled => ?_, settle_of_none⟩
  cases hFirst : firstFailure checks with
  | none => rfl
  | some e =>
      rw [settle_of_some hFirst] at hSettled
      cases hSettled

theorem settle_append : settle (checks ++ more) = settle checks >>= fun _ => settle more := by
  unfold settle firstFailure
  rw [List.findSome?_append]
  cases checks.findSome? id with
  | none => rfl
  | some e => rfl

@[simp]
theorem settle_nil : settle [] = .ok () := rfl

@[simp]
theorem settle_some : settle (some e :: checks) = .error e := rfl

@[simp]
theorem settle_none : settle (none :: checks) = settle checks := rfl

theorem settle_demand {condition : Prop} [Decidable condition] :
    settle (demand condition e :: checks) = if condition then settle checks else .error e := by
  unfold demand
  by_cases hHolds : condition
  · rw [if_pos hHolds, if_pos hHolds, settle_none]
  · rw [if_neg hHolds, if_neg hHolds, settle_some]

theorem firstFailure_append_eq_none :
    firstFailure (checks ++ more) = none ↔ firstFailure checks = none ∧ firstFailure more = none := by
  unfold firstFailure
  rw [List.findSome?_append, Option.or_eq_none_iff]

theorem firstFailure_cons_eq_none {check : Option Error} :
    firstFailure (check :: checks) = none ↔ check = none ∧ firstFailure checks = none := by
  unfold firstFailure
  rw [List.findSome?_eq_none_iff, List.findSome?_eq_none_iff]
  exact List.forall_mem_cons

theorem holds_of_firstFailure {condition : Prop} [Decidable condition]
    (hNone : firstFailure (demand condition e :: checks) = none) : condition := by
  by_contra hFails
  unfold demand at hNone
  rw [if_neg hFails] at hNone
  cases hNone

theorem demand_eq_some_iff {condition : Prop} [Decidable condition] {failure : Error} :
    demand condition failure = some e ↔ ¬ condition ∧ failure = e := by
  unfold demand
  by_cases hHolds : condition
  · simp [hHolds]
  · simp [hHolds]

theorem eq_of_demand {condition : Prop} [Decidable condition] {failure : Error}
    (hFails : some e = demand condition failure) : e = failure :=
  (demand_eq_some_iff.mp hFails.symm).2.symm

theorem mem_of_firstFailure (hFirst : firstFailure checks = some e) : some e ∈ checks := by
  obtain ⟨check, hMem, hSome⟩ := List.exists_of_findSome?_eq_some hFirst
  rwa [← (show check = some e from hSome)]

/-! ## The request -/

/-- The checks of a request of a company before the store is asked anything. -/
def requestChecks (company : Uuid) (r : PurchaseRequest) : List (Option Error) :=
  [demand (r.amount.isFinite = true ∧ 0 < r.amount) (.invalidAmount r.amount),
    demand (Text.trim r.merchantCategory ≠ "") (.invalidInput .categoryMissing),
    demand (r.company = company) (.forbidden .otherCompany)]

theorem isBlankText_iff {text : String} : Text.isBlankText text = true ↔ Text.trim text = "" := by
  unfold Text.isBlankText Text.trim
  rw [List.isEmpty_iff]
  constructor
  · intro hNil
    rw [hNil]
  · intro hEmpty
    simpa using congrArg String.toList hEmpty

theorem check_eq_settle (company : Uuid) (r : PurchaseRequest) :
    r.check company = settle (requestChecks company r) := by
  unfold requestChecks PurchaseRequest.check checkAmount
  rw [settle_demand, settle_demand, settle_demand, settle_nil]
  by_cases hAmount : r.amount.isFinite = true ∧ 0 < r.amount
  · rw [if_pos hAmount, if_pos (isAmount_iff.mpr hAmount), ok_bind]
    by_cases hBlank : Text.trim r.merchantCategory = ""
    · rw [if_pos (isBlankText_iff.mpr hBlank), if_neg (not_not.mpr hBlank)]
    · rw [if_neg (fun h => hBlank (isBlankText_iff.mp h)), if_pos hBlank]
      by_cases hCompany : r.company = company
      · rw [if_neg (not_not.mpr hCompany), if_pos hCompany]
      · rw [if_pos hCompany, if_neg hCompany]
  · rw [if_neg hAmount, if_neg (fun h => hAmount (isAmount_iff.mp h)), error_bind]

/-! ## The card -/

/-- The words for a status that is not active; the reason of a block is told if it has any text. -/
def statusDetail (status : String) (reason : Option String) : String :=
  if status = "blocked" then
    match reason.filter (· ≠ "") with
    | some reason => "Card is blocked: " ++ reason
    | none => "Card is blocked"
  else if status = "expired" then "Card has expired"
  else if status = "cancelled" then "Card has been cancelled"
  else "Card is not active"

/-- The notes on a card that can be used. -/
def expiryNotes (z : Authorizer) (c : Card) (now : Instant) : List Advisory :=
  if now.daysBetween c.expiry ≤ z.warningDays then [.expiringSoon (now.daysBetween c.expiry)] else []

/-- The failure of a card that has expired. It names the local date of the expiry; where the calendar has
none it is a panic. -/
def expiryFailure (o : Offset) (expiry : Instant) : Error :=
  match o.localDate? expiry with
  | some date => .denied (.cardExpired date)
  | none => .config (.window (.noLocalDate expiry o))

/-- The checks of status and expiry. -/
def usabilityChecks (z : Authorizer) (c : Card) (now : Instant) : List (Option Error) :=
  [demand (c.status = "active")
      (.denied (.cardInactive c.status (statusDetail c.status c.blockedReason))),
    demand (now < c.expiry) (expiryFailure z.offset c.expiry)]

/-- The numbers of a card are numbers; no column of a table can hold anything else. -/
structure Card.Numeric (c : Card) : Prop where
  balance : c.balance.isNaN = false
  spendingLimit : ∀ x, c.spendingLimit = some x → x.isNaN = false
  dailyLimit : ∀ x, c.dailyLimit = some x → x.isNaN = false
  monthlyLimit : ∀ x, c.monthlyLimit = some x → x.isNaN = false

/-- The checks of the balance and the limit of a single purchase. -/
def sufficiencyChecks (c : Card) (amount : Float) : List (Option Error) :=
  [demand (amount ≤ c.balance)
      (.denied (.insufficientBalance c.balance amount (amount - c.balance))),
    c.spendingLimit.bind fun limit =>
      demand (amount ≤ limit) (.denied (.spendingLimitExceeded limit amount))]

theorem status?_eq_some_iff {c : Card} {status : CardStatus} :
    c.status? = some status ↔ c.status = status.name := by
  constructor
  · intro hStatus
    unfold Card.status? CardStatus.ofName? at hStatus
    have hName := List.find?_some hStatus
    exact (eq_of_beq hName).symm
  · intro hName
    unfold Card.status?
    rw [hName]
    cases status <;> rfl

theorem status?_eq_none_iff {c : Card} :
    c.status? = none ↔ ∀ status : CardStatus, c.status ≠ status.name := by
  constructor
  · intro hNone status hName
    rw [status?_eq_some_iff.mpr hName] at hNone
    cases hNone
  · intro hNames
    cases hStatus : c.status? with
    | none => rfl
    | some status => exact absurd (status?_eq_some_iff.mp hStatus) (hNames status)

theorem inactiveDetail_eq {c : Card} (hInactive : c.status ≠ "active") :
    c.inactiveDetail = statusDetail c.status c.blockedReason := by
  unfold Card.inactiveDetail statusDetail
  cases hStatus : c.status? with
  | none =>
      -- a status of no known name has none of the three that are told apart
      have hNames := status?_eq_none_iff.mp hStatus
      have hBlocked : c.status ≠ "blocked" := hNames .blocked
      have hExpired : c.status ≠ "expired" := hNames .expired
      have hCancelled : c.status ≠ "cancelled" := hNames .cancelled
      rw [if_neg hBlocked, if_neg hExpired, if_neg hCancelled]
  | some status =>
      have hName := status?_eq_some_iff.mp hStatus
      cases status with
      | active => exact absurd hName hInactive
      | blocked =>
          have hBlocked : c.status = "blocked" := hName
          rw [if_pos hBlocked]
          cases hReason : c.blockedReason with
          | none => rfl
          | some reason =>
              by_cases hEmpty : reason = ""
              · simp [Option.filter, hEmpty]
              · simp [Option.filter, hEmpty]
                rfl
      | expired => simp [hName, CardStatus.name]
      | cancelled => simp [hName, CardStatus.name]

theorem readDate_eq_expiryFailure (o : Offset) (expiry : Instant) :
    (do
      let date ← liftFault (fun fault => .config (.window fault)) (o.readDate expiry)
      .error (.denied (.cardExpired date)) : Except Error (List Advisory)) =
      .error (expiryFailure o expiry) := by
  unfold expiryFailure
  cases hDate : o.localDate? expiry with
  | none =>
      rw [Offset.readDate_of_none hDate]
      rfl
  | some date =>
      rw [Offset.readDate_of_some hDate]
      rfl

theorem checkUsable_eq_settle (z : Authorizer) (c : Card) (now : Instant) :
    z.checkUsable c now =
      settle (usabilityChecks z c now) >>= fun _ => .ok (expiryNotes z c now) := by
  unfold usabilityChecks Authorizer.checkUsable expiryNotes
  rw [settle_demand, settle_demand, settle_nil]
  by_cases hActive : c.status = "active"
  · rw [if_neg (not_not.mpr (status?_eq_some_iff.mpr hActive)), if_pos hActive]
    by_cases hExpiry : now < c.expiry
    · rw [if_neg (fun h => Instant.le_iff_not_lt.mp h hExpiry), if_pos hExpiry, ok_bind]
      dsimp only
      split
      · rfl
      · rfl
    · rw [if_pos (Instant.le_iff_not_lt.mpr hExpiry), if_neg hExpiry, readDate_eq_expiryFailure]
      rfl
  · rw [if_pos (fun h => hActive (status?_eq_some_iff.mp h)), if_neg hActive,
      inactiveDetail_eq hActive]
    rfl

theorem checkSufficient_eq_settle {c : Card} {amount : Float} (hNumeric : c.Numeric)
    (hAmount : amount.isNaN = false) :
    liftFault .denied (Authorizer.checkSufficient c amount) = settle (sufficiencyChecks c amount) := by
  unfold sufficiencyChecks Authorizer.checkSufficient
  rw [settle_demand]
  by_cases hCovered : amount ≤ c.balance
  · rw [if_neg ((Binary64.not_lt_iff hNumeric.balance hAmount).mpr hCovered), if_pos hCovered]
    cases hSpending : c.spendingLimit with
    | none => rfl
    | some limit =>
        rw [Option.bind_some, settle_demand, settle_nil]
        dsimp only
        by_cases hWithin : amount ≤ limit
        · have hNotMore : ¬ amount > limit :=
            (Binary64.not_lt_iff (hNumeric.spendingLimit limit hSpending) hAmount).mpr hWithin
          rw [if_neg hNotMore, if_pos hWithin]
          rfl
        · have hMore : amount > limit :=
            (Binary64.not_le_iff hAmount (hNumeric.spendingLimit limit hSpending)).mp hWithin
          rw [if_pos hMore, if_neg hWithin]
          rfl
  · rw [if_pos ((Binary64.not_le_iff hAmount hNumeric.balance).mp hCovered), if_neg hCovered]
    rfl

theorem denied_of_sufficiency {c : Card} {amount : Float} (hMem : some e ∈ sufficiencyChecks c amount) :
    ∃ denial, e = .denied denial := by
  unfold sufficiencyChecks at hMem
  simp only [List.mem_cons, List.not_mem_nil, or_false] at hMem
  rcases hMem with hBalance | hLimit
  · exact ⟨_, eq_of_demand hBalance⟩
  · obtain ⟨limit, -, hDemand⟩ := Option.bind_eq_some_iff.mp hLimit.symm
    exact ⟨_, eq_of_demand hDemand.symm⟩

/-! ## Daily and monthly limits -/

/-- The check of a limit for a window of time, if there is one; the window has to be told first. -/
def periodCheck (s : Store) (card : Uuid) (amount : Float) (limit : Option Float)
    (window : Except WindowFault Window) (denial : LimitBreach → Denial) : Option Error :=
  limit.bind fun limit =>
    match window with
    | .error fault => some (.config (.window fault))
    | .ok w =>
        demand (s.spentIn card w + amount ≤ limit)
          (.denied (denial
            { limit, spent := s.spentIn card w, amount, total := s.spentIn card w + amount
              remaining := limit - s.spentIn card w }))

/-- The checks of the daily and the monthly limit. -/
def periodChecks (z : Authorizer) (s : Store) (c : Card) (amount : Float) (now : Instant) :
    List (Option Error) :=
  [periodCheck s c.id amount c.dailyLimit (z.offset.dayWindow now) .dailyLimitExceeded,
    periodCheck s c.id amount c.monthlyLimit (z.offset.monthWindow now) .monthlyLimitExceeded]

/-- A limit is exceeded, or its window cannot be told. -/
theorem told_of_periodCheck {s : Store} {card : Uuid} {amount : Float} {limit : Option Float}
    {window : Except WindowFault Window} {denial : LimitBreach → Denial}
    (hCheck : periodCheck s card amount limit window denial = some e) :
    (∃ denial, e = .denied denial) ∨ ∃ fault, window = .error fault ∧ e = .config (.window fault) := by
  obtain ⟨x, -, hWindow⟩ := Option.bind_eq_some_iff.mp hCheck
  cases window with
  | error fault => exact .inr ⟨fault, rfl, (Option.some.inj hWindow).symm⟩
  | ok w => exact .inl ⟨_, eq_of_demand hWindow.symm⟩

theorem isNaN_spentIn {s : Store} {card : Uuid} {w : Window} : (s.spentIn card w).isNaN = false := by
  unfold Store.spentIn
  dsimp only
  split
  · decide
  · next hNumber => exact Bool.eq_false_of_not_eq_true hNumber

theorem checkPeriodLimit_eq_settle {s : Store} {card : Uuid} {amount : Float} {limit : Option Float}
    {window : Except WindowFault Window} {denial : LimitBreach → Denial}
    (hAmount : amount.isFinite = true)
    (hLimit : ∀ x, limit = some x → x.isNaN = false) :
    checkPeriodLimit limit (s.spentDuring card window) amount denial =
      settle [periodCheck s card amount limit window denial] := by
  unfold periodCheck checkPeriodLimit Store.spentDuring
  cases hSet : limit with
  | none => rfl
  | some x =>
      cases window with
      | error fault => rfl
      | ok w =>
          -- the sum can be infinite, but as the amount is finite it is a number
          have hTotal : (s.spentIn card w + amount).isNaN = false :=
            Binary64.isNaN_add isNaN_spentIn hAmount
          rw [Option.bind_some, settle_demand, settle_nil]
          dsimp only
          rw [liftFault_ok, ok_bind, pure_eq_ok, ok_bind]
          by_cases hWithin : s.spentIn card w + amount ≤ x
          · have hNotMore : ¬ s.spentIn card w + amount > x :=
              (Binary64.not_lt_iff (hLimit x hSet) hTotal).mpr hWithin
            rw [if_neg hNotMore, if_pos hWithin]
          · have hMore : s.spentIn card w + amount > x :=
              (Binary64.not_le_iff hTotal (hLimit x hSet)).mp hWithin
            rw [if_pos hMore, if_neg hWithin]
            rfl

theorem checkPeriods_eq_settle {z : Authorizer} {s : Store} {c : Card} {amount : Float} {now : Instant}
    (hNumeric : c.Numeric) (hAmount : amount.isFinite = true) :
    z.checkPeriods s c amount now = settle (periodChecks z s c amount now) := by
  unfold Authorizer.checkPeriods Store.spentToday Store.spentThisMonth
  rw [checkPeriodLimit_eq_settle hAmount hNumeric.dailyLimit,
    checkPeriodLimit_eq_settle hAmount hNumeric.monthlyLimit]
  exact settle_append.symm

/-! ## Controls -/

/-- The check that a row of a control can be decoded. -/
def decodingCheck (row : ControlRow) : Option Error :=
  match ControlValue.ofStored row.type row.payload with
  | .error fault => some (.controlConfig fault)
  | .ok _ => none

/-- The check of a control that has been decoded. -/
def policyCheck (z : Authorizer) (category : String) (now : Instant) (control : ControlValue) :
    Option Error :=
  match control.refusal? category (z.offset.localTime now) with
  | .error fault => some (.controlConfig fault)
  | .ok none => none
  | .ok (some reason) =>
      some (.denied (.controlViolation control.type reason (Text.normalize category)
        (z.offset.localTime now).toText z.offset.toText))

/-- The controls among rows that can be decoded. -/
def decodedControls (rows : List ControlRow) : List ControlValue :=
  rows.filterMap fun row => (ControlValue.ofStored row.type row.payload).toOption

/-- The checks of the active controls of a card: each has to be decodable, then the category rules
and after them the time windows have to let the purchase through. -/
def controlChecks (z : Authorizer) (s : Store) (c : Card) (category : String) (now : Instant) :
    List (Option Error) :=
  (s.activeControls c.id).map decodingCheck ++
    ((decodedControls (s.activeControls c.id)).filter (·.type == .merchantCategory) ++
      (decodedControls (s.activeControls c.id)).filter (·.type == .timeBased)).map
        (policyCheck z category now)

/-- Decoding stops at the first row that cannot be decoded. -/
theorem mapM_ofStored (rows : List ControlRow) :
    (rows.mapM fun row => liftFault .controlConfig (ControlValue.ofStored row.type row.payload)) =
      settle (rows.map decodingCheck) >>= fun _ => .ok (decodedControls rows) := by
  induction rows with
  | nil => rfl
  | cons row rest ih =>
      rw [List.mapM_cons, ih, List.map_cons]
      cases hRow : ControlValue.ofStored row.type row.payload with
      | error fault =>
          have hCheck : decodingCheck row = some (.controlConfig fault) := by
            unfold decodingCheck
            rw [hRow]
          rw [hCheck, settle_some]
          rfl
      | ok control =>
          have hCheck : decodingCheck row = none := by
            unfold decodingCheck
            rw [hRow]
          have hDecoded : decodedControls (row :: rest) = control :: decodedControls rest := by
            simp [decodedControls, hRow, Except.toOption]
          rw [hCheck, settle_none, hDecoded, liftFault_ok, ok_bind]
          cases settle (rest.map decodingCheck) with
          | error e => rfl
          | ok u => rfl

/-- The first control that refuses, or that cannot be evaluated, decides. -/
theorem firstViolation_eq_settle (z : Authorizer) (category : String) (now : Instant)
    (controls : List ControlValue) :
    (do
      match ← liftFault .controlConfig (firstViolation category (z.offset.localTime now) controls) with
      | none => (.ok () : Except Error Unit)
      | some violation =>
          .error (.denied (.controlViolation violation.type violation.reason (Text.normalize category)
            (z.offset.localTime now).toText z.offset.toText))) =
      settle (controls.map (policyCheck z category now)) := by
  induction controls with
  | nil => rfl
  | cons control rest ih =>
      rw [List.map_cons]
      unfold firstViolation
      cases hRefusal : control.refusal? category (z.offset.localTime now) with
      | error fault =>
          have hCheck : policyCheck z category now control = some (.controlConfig fault) := by
            unfold policyCheck
            rw [hRefusal]
          rw [hCheck]
          rfl
      | ok refusal =>
          cases refusal with
          | none =>
              have hCheck : policyCheck z category now control = none := by
                unfold policyCheck
                rw [hRefusal]
              rw [hCheck, settle_none, ← ih]
          | some reason =>
              have hCheck : policyCheck z category now control =
                  some (.denied (.controlViolation control.type reason (Text.normalize category)
                    (z.offset.localTime now).toText z.offset.toText)) := by
                unfold policyCheck
                rw [hRefusal]
              rw [hCheck]
              rfl

theorem settle_of_all_none (hNone : ∀ check ∈ checks, check = none) : settle checks = .ok () := by
  refine settle_of_none (List.findSome?_eq_none_iff.mpr fun check hMem => ?_)
  exact hNone check hMem

/-- The reserved controls come last and let everything through. -/
theorem settle_policyOrder (z : Authorizer) (category : String) (now : Instant)
    (controls : List ControlValue) :
    settle ((policyOrder controls).map (policyCheck z category now)) =
      settle ((controls.filter (·.type == .merchantCategory) ++
        controls.filter (·.type == .timeBased)).map (policyCheck z category now)) := by
  -- the order has four kinds, of which the last two are reserved
  have hOrder : policyOrder controls =
      (controls.filter (·.type == .merchantCategory) ++ controls.filter (·.type == .timeBased)) ++
        (controls.filter (·.type == .merchantName) ++ controls.filter (·.type == .location)) := by
    simp [policyOrder, ControlType.all]
  have hReserved : ∀ check ∈ (controls.filter (·.type == .merchantName) ++
      controls.filter (·.type == .location)).map (policyCheck z category now), check = none := by
    intro check hCheck
    obtain ⟨control, hControl, rfl⟩ := List.mem_map.mp hCheck
    cases control with
    | merchantCategory rule => simp [ControlValue.type] at hControl
    | timeBased rule => simp [ControlValue.type] at hControl
    | merchantName payload => rfl
    | location payload => rfl
  rw [hOrder, List.map_append, settle_append, settle_of_all_none hReserved]
  cases settle _ with
  | error e => rfl
  | ok u => rfl

/-- All rows are decoded before the first control is asked. -/
theorem checkPolicy_eq_settle (z : Authorizer) (s : Store) (c : Card) (category : String)
    (now : Instant) :
    z.checkPolicy s c category now = settle (controlChecks z s c category now) := by
  unfold controlChecks
  rw [settle_append, ← settle_policyOrder, ← firstViolation_eq_settle]
  unfold Authorizer.checkPolicy Store.activeControlValues evaluateControls
  rw [mapM_ofStored]
  cases settle ((s.activeControls c.id).map decodingCheck) with
  | error e => rfl
  | ok u => rfl

end CardLedger
