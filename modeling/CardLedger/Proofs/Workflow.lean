import CardLedger.Issuance
import CardLedger.Proofs.Administration
import CardLedger.Proofs.Booking

/-!
# Runs of the workflow

The operations of the ledger that its callers use, called one after the other, each with arguments
of its own and whether it goes through or fails. A call that fails leaves the store as it was. One
that goes through does one of four things to the cards and the record of transactions, and what all
runs have in common follows from these four.
-/

namespace CardLedger

/-- An operation of the workflow with its arguments. -/
inductive Operation where
  | registerCompany (new : NewCompany)
  | setCompanyStatus (company : Uuid) (status : CompanyStatus)
  | enqueue (company : Uuid) (employees : List EmployeeRecord)
  | issue (settings : IssuanceSettings) (company : Uuid)
  | fundCard (company card : Uuid) (amount : Float)
  | setSpendingLimit (company card : Uuid) (limit : Float)
  | setPeriodLimits (company card : Uuid) (daily monthly : Option Float)
  | blockCard (company card : Uuid) (reason : Option String)
  | upsertControl (company card : Uuid) (control : ControlValue)
  | deactivateControl (company card : Uuid) (kind : ControlType)
  | authorize (z : Authorizer) (company : Uuid) (r : PurchaseRequest) (now : Instant)

/-- The store that an operation leaves if it goes through. -/
def Operation.apply (s : Store) (a : Ambient) : Operation → Except Error Store
  | registerCompany new => (s.registerCompany a new).map (·.2)
  | setCompanyStatus company status => (s.setCompanyStatus a company status).map (·.2)
  | enqueue company employees => (s.enqueue a company employees).map (·.2)
  | issue settings company => (s.issue a settings company).map (·.2)
  | fundCard company card amount => (s.fundCard a company card amount).map (·.2)
  | setSpendingLimit company card limit => (s.setSpendingLimit a company card limit).map (·.2)
  | setPeriodLimits company card daily monthly =>
      (s.setPeriodLimits a company card daily monthly).map (·.2)
  | blockCard company card reason => (s.blockCard a company card reason).map (·.2)
  | upsertControl company card control => (s.upsertControl a company card control).map (·.2)
  | deactivateControl company card kind => (s.deactivateControl a company card kind).map (·.2)
  | authorize z company r now => (z.authorize s a company r now).map (·.2)

/-- The controls that an operation writes. -/
def Operation.controls : Operation → List ControlValue
  | issue settings _ => settings.defaultControls
  | upsertControl _ _ control => [control]
  | _ => []

/-- A call of the workflow, in surroundings where nobody else sets balances. -/
structure Call where
  operation : Operation
  ambient : Ambient
  alone : ambient.interference.balanceAfterRecord = none

/-- The payloads that a call writes are read as they were written. -/
def Call.KeepsPayloads (call : Call) : Prop :=
  ∀ v ∈ call.operation.controls, call.ambient.KeepsPayload v

namespace Store

/-- The store after a call: the one that the operation leaves, or the old one if it fails. -/
def after (s : Store) (call : Call) : Store :=
  match call.operation.apply s call.ambient with
  | .ok next => next
  | .error _ => s

/-- The store after a run of calls. -/
def run (s : Store) (calls : List Call) : Store :=
  calls.foldl after s

variable {s next : Store} {a : Ambient}

theorem after_of_ok {call : Call} (hApply : call.operation.apply s call.ambient = .ok next) :
    s.after call = next := by
  unfold after
  rw [hApply]

theorem after_of_error {call : Call} {e : Error}
    (hApply : call.operation.apply s call.ambient = .error e) : s.after call = s := by
  unfold after
  rw [hApply]

theorem run_append (s : Store) (calls more : List Call) :
    s.run (calls ++ more) = (s.run calls).run more :=
  List.foldl_append

/-- What holds at the start and survives every call of a kind that goes through holds after every run of
such calls. -/
theorem run_preserves_of_forall {P : Store → Prop} {Q : Call → Prop}
    (hStep : ∀ {s next : Store} {call : Call}, P s → Q call →
      call.operation.apply s call.ambient = .ok next → P next)
    (hStart : P s) {calls : List Call} (hCalls : ∀ call ∈ calls, Q call) : P (s.run calls) := by
  induction calls generalizing s with
  | nil => exact hStart
  | cons call rest ih =>
      obtain ⟨hCall, hRest⟩ := List.forall_mem_cons.mp hCalls
      refine ih ?_ hRest
      cases hApply : call.operation.apply s call.ambient with
      | ok next =>
          rw [after_of_ok hApply]
          exact hStep hStart hCall hApply
      | error e =>
          rw [after_of_error hApply]
          exact hStart

/-- What holds at the start and survives every call that goes through holds after every run. -/
theorem run_preserves {P : Store → Prop}
    (hStep : ∀ {s next : Store} {call : Call}, P s →
      call.operation.apply s call.ambient = .ok next → P next)
    (hStart : P s) (calls : List Call) : P (s.run calls) :=
  run_preserves_of_forall (Q := fun _ => True) (fun hs _ hApply => hStep hs hApply) hStart
    fun _ _ => trivial

end Store

/-! ## What a call does to the cards and the record -/

/-- The four things that a call can do to the cards and the record of transactions. -/
inductive LedgerChange (s next : Store) : Prop where
  | kept (hCards : next.cards = s.cards) (hRecord : next.transactions = s.transactions)
  | revised (id : Uuid) (change : Card → Card) (hRevision : Card.Revision change)
      (hCards : next.cards = (s.modifyCard id change).cards)
      (hRecord : next.transactions = s.transactions)
  | issued (new : List Card) (hEmpty : ∀ c ∈ new, c.balance = 0 ∧ c.ProperLimits)
      (hKeyed : next.CardsKeyed) (hCards : next.cards = s.cards ++ new)
      (hRecord : next.transactions = s.transactions)
  | booked (t : Transaction) (hBooking : Booking s next t)

variable {s next : Store} {a : Ambient}

theorem ledgerChange_of_revision {id : Uuid}
    (hRevised : ∃ change, Card.Revision change ∧ next = s.modifyCard id change) :
    LedgerChange s next := by
  obtain ⟨change, hRevision, rfl⟩ := hRevised
  exact .revised id change hRevision rfl rfl

/-- A call that goes through does one of four things to the cards and the record. -/
theorem ledgerChange_of_apply {operation : Operation} (hKeyed : s.CardsKeyed)
    (hAlone : a.interference.balanceAfterRecord = none)
    (hApply : operation.apply s a = .ok next) : LedgerChange s next := by
  unfold Operation.apply at hApply
  cases operation with
  | registerCompany new =>
      obtain ⟨result, hRun, rfl⟩ := map_eq_ok_iff.mp hApply
      have hStore := Store.registerCompany_eq_ok hRun
      exact .kept (by rw [hStore]) (by rw [hStore])
  | setCompanyStatus company status =>
      obtain ⟨result, hRun, rfl⟩ := map_eq_ok_iff.mp hApply
      have hStore := Store.setCompanyStatus_eq_ok hRun
      exact .kept (by rw [hStore]) (by rw [hStore])
  | enqueue company employees =>
      obtain ⟨result, hRun, rfl⟩ := map_eq_ok_iff.mp hApply
      obtain ⟨-, -, hStore⟩ := Store.enqueue_eq_ok hRun
      exact .kept (by rw [hStore]) (by rw [hStore])
  | issue settings company =>
      obtain ⟨result, hRun, rfl⟩ := map_eq_ok_iff.mp hApply
      obtain ⟨-, hStore, hNextKeyed, -⟩ := Store.issue_eq_ok hKeyed hRun
      exact .issued result.1 (Store.issue_empty hKeyed hRun) hNextKeyed (by rw [hStore]) (by rw [hStore])
  | fundCard company card amount =>
      -- of all operations only this one and an authorization move money
      obtain ⟨result, hRun, rfl⟩ := map_eq_ok_iff.mp hApply
      exact .booked _ (booking_of_fundCard hKeyed hAlone hRun)
  | setSpendingLimit company card limit =>
      obtain ⟨result, hRun, rfl⟩ := map_eq_ok_iff.mp hApply
      exact ledgerChange_of_revision (Store.setSpendingLimit_eq_ok hRun)
  | setPeriodLimits company card daily monthly =>
      obtain ⟨result, hRun, rfl⟩ := map_eq_ok_iff.mp hApply
      exact ledgerChange_of_revision (Store.setPeriodLimits_eq_ok hRun)
  | blockCard company card reason =>
      obtain ⟨result, hRun, rfl⟩ := map_eq_ok_iff.mp hApply
      exact ledgerChange_of_revision (Store.blockCard_eq_ok hRun)
  | upsertControl company card control =>
      obtain ⟨result, hRun, rfl⟩ := map_eq_ok_iff.mp hApply
      have hStore := Store.upsertControl_eq_ok hRun
      exact .kept (by rw [hStore]) (by rw [hStore])
  | deactivateControl company card kind =>
      obtain ⟨result, hRun, rfl⟩ := map_eq_ok_iff.mp hApply
      have hStore := Store.deactivateControl_eq_ok hRun
      exact .kept (by rw [hStore]) (by rw [hStore])
  | authorize z company r now =>
      obtain ⟨result, hRun, rfl⟩ := map_eq_ok_iff.mp hApply
      obtain ⟨-, -, -, card, advisories, -, hCommit⟩ := Authorizer.authorize_eq_ok hRun
      exact .booked _ (booking_of_commit hKeyed hAlone hCommit)

/-! ## A sample -/

namespace Sample

/-- Surroundings of the call of a number, with identifiers of its own. -/
def surroundings (number : Nat) : Ambient :=
  { now := .epoch, freshId := fun n => .ofNat (1000 * number + n), draw := fun _ => 0 }

/-- The call of a number. -/
def call (number : Nat) (operation : Operation) : Call :=
  ⟨operation, surroundings number, rfl⟩

/-- The company that the opening registers. -/
def tenant : Uuid := .ofNat 1000

/-- The card that the opening issues. -/
def issued : Uuid := .ofNat 2001

/-- A company is registered, and an employee gets a card with a control, funds and a daily limit. -/
def opening : List Call :=
  [call 1 (.registerCompany ⟨"Acme", "Office@acme.example ", none, none⟩),
    call 2 (.enqueue tenant [⟨.ofNat 7, " ada@acme.example"⟩]),
    call 3 (.issue { defaultControls := [.merchantCategory ⟨[], ["gambling"]⟩] } tenant),
    call 4 (.fundCard tenant issued 100),
    call 5 (.setPeriodLimits tenant issued (some 90) none)]

theorem keepsPayloads_opening : ∀ call ∈ opening, call.KeepsPayloads := by
  have hCall : ∀ number operation, (call number operation).KeepsPayloads := fun _ _ _ _ => rfl
  intro made hMem
  fin_cases hMem <;> exact hCall _ _

/-- A purchase with the card of the opening. -/
def purchase (number : Nat) (amount : Float) (now : Instant) : Call :=
  call number (.authorize {} tenant ⟨tenant, issued, amount, "food", none⟩ now)

end Sample

end CardLedger
