import CardLedger.Proofs.DatabaseTransaction
import CardLedger.Proofs.Purchase
import CardLedger.Proofs.Workflow

/-!
# Operations step by step

The operations that open a database transaction, as procedures: what they read and check before it, and
the statements that they execute inside of it. A procedure that nobody disturbs comes to what the operation
does. However it is disturbed, it leaves all of its transaction or nothing.

Main statements: `Procedure.result_authorize`, `Operation.all_or_nothing`.
-/

namespace CardLedger

namespace Script

/-- A statement that returns nothing. -/
def write (change : Store → Except Error Store) : Script Unit :=
  perform fun s => (change s).map ((), ·)

@[simp]
theorem result_write (change : Store → Except Error Store) (s : Store) :
    (write change).result s = (change s).map ((), ·) :=
  result_perform _ s

/-- The commit of a purchase: record, debit, completion, and what is read back. -/
def purchase (z : Authorizer) (a : Ambient) (card : Card) (r : PurchaseRequest) (now : Instant)
    (advisories : List Advisory) : Script AuthorizedPurchase := do
  let record ← perform fun s => s.createTransaction a (r.newTransaction card) now
  let debited ← perform fun s => liftFault Authorizer.conflict (s.debit a card.id r.amount)
  write fun s => .ok (s.updateStatus a record.id .completed)
  perform fun s => (z.readBack s record.id card.id debited now advisories).map (·, s)

/-- The charge of a top-up: record, credit, completion. -/
def topUp (a : Ambient) (company card : Uuid) (amount : Float) : Script Card := do
  let record ← perform fun s => s.createTransaction a (Store.topUp company card amount) a.now
  let funded ← perform fun s => s.credit a card amount
  write fun s => .ok (s.updateStatus a record.id .completed)
  return funded

/-- Add queue rows one after the other. -/
def insertQueueRows : List QueueRow → Script Unit
  | [] => return ()
  | r :: rest => do
      write (·.insertQueueRow r)
      insertQueueRows rest

/-- Set controls of a card one after the other. -/
def putControls (a : Ambient) (card : Uuid) (next : Nat) : List ControlValue → Script Unit
  | [] => return ()
  | control :: rest => do
      let _ ← perform fun s => s.putControl a (a.freshId next) card control
      putControls a card (next + 1) rest

/-- Issue the cards of queue rows, the first of them being the row at an index. -/
def issueRows (a : Ambient) (controls : List ControlValue) (expiry : Instant) (index : Nat) :
    List QueueRow → Script (List Card)
  | [] => return []
  | r :: rest => do
      let draw := fun i => a.draw (15 * index + i)
      let card := r.card (Luhn.cardNumber draw) (cvvHash (draw 14)) a.now expiry
      write (·.insertCard card)
      putControls a card.id (controls.length * index) controls
      let issued ← issueRows a controls expiry (index + 1) rest
      return card :: issued

variable {a : Ambient} {s : Store} {z : Authorizer} {card : Card} {r : PurchaseRequest} {now : Instant}
  {advisories : List Advisory}

theorem result_purchase :
    (purchase z a card r now advisories).result s = z.commit s a card r now advisories := by
  unfold purchase
  rw [Authorizer.commit_eq_readBack]
  simp only [result_bind, result_perform, result_write]
  refine bind_congr fun written => bind_congr fun lowered => ?_
  change (z.readBack _ _ _ _ _ _).map _ = _
  cases z.readBack (lowered.2.updateStatus a written.1.id .completed) written.1.id card.id lowered.1 now
    advisories with
  | error e => rfl
  | ok purchase => rfl

theorem result_insertQueueRows (rows : List QueueRow) (s : Store) :
    (insertQueueRows rows).result s = (s.insertQueueRows rows).map ((), ·) := by
  induction rows generalizing s with
  | nil => rfl
  | cons r rest ih =>
      unfold insertQueueRows Store.insertQueueRows
      simp only [result_bind, result_write, ih]
      cases s.insertQueueRow r with
      | error e => rfl
      | ok inserted => rfl

theorem result_putControls (card : Uuid) (next : Nat) (controls : List ControlValue) (s : Store) :
    (putControls a card next controls).result s = (s.putControls a card next controls).map ((), ·) := by
  induction controls generalizing s next with
  | nil => rfl
  | cons control rest ih =>
      unfold putControls Store.putControls
      simp only [result_bind, result_perform, ih]
      cases s.putControl a (a.freshId next) card control with
      | error e => rfl
      | ok put => rfl

theorem result_issueRows (controls : List ControlValue) (expiry : Instant) (index : Nat)
    (rows : List QueueRow) (s : Store) :
    (issueRows a controls expiry index rows).result s = s.issueRows a controls expiry index rows := by
  induction rows generalizing s index with
  | nil => rfl
  | cons r rest ih =>
      unfold issueRows Store.issueRows
      simp only [result_bind, result_write, result_putControls, ih, result_pure]
      cases s.insertCard (r.card _ _ a.now expiry) with
      | error e => rfl
      | ok inserted =>
          dsimp only [Except.map]
          rw [ok_bind, ok_bind]
          cases inserted.putControls a _ (controls.length * index) controls with
          | error e => rfl
          | ok controlled => rfl

end Script

/-! ## Procedures -/

namespace Procedure

/-- The procedure with another value in the end. -/
def map {α β : Type} (f : α → β) : Procedure α → Procedure β
  | transaction body => transaction do return f (← body)
  | query read next => query read fun found => (next found).map f

theorem result_map {α β : Type} (f : α → β) (p : Procedure α) (s : Store) :
    (p.map f).result s = (p.result s).map fun found => (f found.1, found.2) := by
  induction p with
  | transaction body =>
      change (body >>= fun value => pure (f value)).result s = _
      rw [Script.result_bind]
      change _ = (body.result s).map _
      cases body.result s with
      | error e => rfl
      | ok found => rfl
  | query read next ih =>
      change (read s >>= fun found => ((next found).map f).result s) = (read s >>= _).map _
      cases read s with
      | error e => rfl
      | ok found => exact ih found

variable (a : Ambient)

/-- Authorize a purchase. The two limits and the controls are read one after the other. -/
def authorize (z : Authorizer) (company : Uuid) (r : PurchaseRequest) (now : Instant) :
    Procedure AuthorizedPurchase :=
  query (fun _ => r.check company) fun _ =>
  query (fun s => s.getCard company r.card) fun card =>
  query (fun _ => z.checkUsable card now) fun advisories =>
  query (fun _ => liftFault .denied (Authorizer.checkSufficient card r.amount)) fun _ =>
  query (fun s => checkPeriodLimit card.dailyLimit (s.spentToday z.offset card.id now) r.amount
    .dailyLimitExceeded) fun _ =>
  query (fun s => checkPeriodLimit card.monthlyLimit (s.spentThisMonth z.offset card.id now) r.amount
    .monthlyLimitExceeded) fun _ =>
  query (fun s => z.checkPolicy s card r.merchantCategory now) fun _ =>
  transaction (.purchase z a card r now advisories)

/-- Load funds onto a card. -/
def fundCard (company card : Uuid) (amount : Float) : Procedure Card :=
  query (fun _ => checkAmount amount) fun _ =>
  query (fun s => s.getCard company card) fun _ =>
  transaction (.topUp a company card amount)

/-- Queue employees for cards. -/
def enqueue (company : Uuid) (employees : List EmployeeRecord) : Procedure (List QueueRow) :=
  let rows := employees.zipIdx.map fun (e, i) =>
    e.queueRow company (a.freshId (2 * i)) (a.freshId (2 * i + 1)) a.now
  query (fun _ => if employees.isEmpty then .error (.invalidInput .noEmployees) else .ok ()) fun _ =>
  query (fun _ =>
    match firstBlankEmail? employees with
    | some position => .error (.invalidInput (.employeeEmail position))
    | none => .ok ()) fun _ =>
  query (fun s => s.checkActive company) fun _ =>
  transaction do
    Script.insertQueueRows rows
    return rows

/-- Issue a card for every pending row of a company; the rows are read before the transaction opens. -/
def issue (settings : IssuanceSettings) (company : Uuid) : Procedure (List Card) :=
  query (fun s => s.checkActive company) fun _ =>
  query (fun _ => checkControls settings.defaultControls) fun _ =>
  query (fun s =>
    if (s.pending company).isEmpty then .error (.nothingToIssue company)
    else .ok (s.pending company)) fun rows =>
  query (fun _ => expiryAfter a.now settings.validityYears) fun expiry =>
  transaction do
    let cards ← Script.issueRows a settings.defaultControls expiry 0 rows
    Script.write fun s => .ok (s.markGenerated a.now rows)
    return cards

/-- Set a control of a company's card. -/
def upsertControl (company card : Uuid) (v : ControlValue) : Procedure ControlRow :=
  query (fun _ => liftFault .controlConfig v.validate) fun _ =>
  transaction do
    let _ ← Script.perform fun s => (s.getCard company card).map (·, s)
    Script.perform fun s => s.putControl a (a.freshId 0) card v

variable {a : Ambient} {s : Store} {z : Authorizer} {company card : Uuid} {r : PurchaseRequest}
  {now : Instant}

/-- Left alone and in time, the procedure is `Authorizer.authorize`. -/
theorem result_authorize (hHeard : ¬ (a.interference.storeSilent = true ∨ z.timeoutMs = 0)) :
    (authorize a z company r now).result s = z.authorize s a company r now := by
  unfold Authorizer.authorize
  rw [if_neg hHeard]
  unfold authorize Authorizer.screen Authorizer.checkPeriods
  simp only [result, Script.result_purchase, bind_assoc, pure_bind]

theorem result_fundCard {amount : Float} :
    (fundCard a company card amount).result s = s.fundCard a company card amount := by
  unfold fundCard Script.topUp Store.fundCard
  simp only [result, Script.result_bind, Script.result_perform, Script.result_write, Script.result_pure]
  rfl

theorem result_enqueue {employees : List EmployeeRecord} :
    (enqueue a company employees).result s = s.enqueue a company employees := by
  unfold enqueue Store.enqueue
  simp only [result, Script.result_bind, Script.result_insertQueueRows, Script.result_pure]
  cases employees.isEmpty with
  | true => rfl
  | false =>
      cases firstBlankEmail? employees with
      | some position => rfl
      | none =>
          cases s.checkActive company with
          | error e => rfl
          | ok u =>
              rw [ok_bind]
              cases s.insertQueueRows _ with
              | error e => rfl
              | ok inserted => rfl

theorem result_issue {settings : IssuanceSettings} :
    (issue a settings company).result s = s.issue a settings company := by
  unfold issue Store.issue
  simp only [result, Script.result_bind, Script.result_issueRows, Script.result_write, Script.result_pure]
  refine bind_congr fun _ => bind_congr fun _ => ?_
  cases (s.pending company).isEmpty with
  | true => rfl
  | false => rfl

theorem result_upsertControl {v : ControlValue} :
    (upsertControl a company card v).result s = s.upsertControl a company card v := by
  unfold upsertControl Store.upsertControl
  simp only [result, Script.result_bind, Script.result_perform]
  refine bind_congr fun _ => ?_
  cases s.getCard company card with
  | error e => rfl
  | ok found => rfl

end Procedure

/-! ## Operations without a deadline -/

/-- The procedure of an operation that opens a database transaction and has no deadline of its own; what
it returns is left out. -/
def Operation.procedure? (a : Ambient) : Operation → Option (Procedure Unit)
  | enqueue company employees => some ((Procedure.enqueue a company employees).map fun _ => ())
  | issue settings company => some ((Procedure.issue a settings company).map fun _ => ())
  | fundCard company card amount => some ((Procedure.fundCard a company card amount).map fun _ => ())
  | upsertControl company card v => some ((Procedure.upsertControl a company card v).map fun _ => ())
  | registerCompany .. | setCompanyStatus .. | setSpendingLimit .. | setPeriodLimits .. | blockCard ..
  | deactivateControl .. | authorize .. => none

namespace Operation

variable {a : Ambient} {operation : Operation} {p : Procedure Unit}

/-- Left alone, the procedure of an operation does what the operation does. -/
theorem result_of_procedure? (hProcedure : operation.procedure? a = some p) (s : Store) :
    p.result s = (operation.apply s a).map ((), ·) := by
  cases operation with
  | enqueue company employees =>
      cases hProcedure
      rw [Procedure.result_map, Procedure.result_enqueue]
      exact map_map.symm
  | issue settings company =>
      cases hProcedure
      rw [Procedure.result_map, Procedure.result_issue]
      exact map_map.symm
  | fundCard company card amount =>
      cases hProcedure
      rw [Procedure.result_map, Procedure.result_fundCard]
      exact map_map.symm
  | upsertControl company card v =>
      cases hProcedure
      rw [Procedure.result_map, Procedure.result_upsertControl]
      exact map_map.symm
  | registerCompany | setCompanyStatus | setSpendingLimit | setPeriodLimits | blockCard
  | deactivateControl | authorize => cases hProcedure

/-- An operation that nobody disturbs ends as told. Disturbed by failures of the database and by others
that write in between, it leaves the tables to the others if it ends with an error; if it ends well, its
whole transaction has been executed on what others had left until then. -/
theorem all_or_nothing (hProcedure : operation.procedure? a = some p) (s : Store) :
    (∃ n, Execution.run none (.start p s) (List.replicate n .advance) =
      some (.conclude s ((operation.apply s a).map ((), ·)))) ∧
    ∀ events tables outcome, Execution.run none (.start p s) events = some ⟨tables, .ended outcome⟩ →
      match outcome with
      | .ok () => Execution.Committed p s events () tables
      | .error _ => tables = leftByOthers s events := by
  refine ⟨?_, fun events tables outcome hRun => ?_⟩
  · rw [← result_of_procedure? hProcedure]
    exact Execution.run_alone none p s
  · cases outcome with
    | ok u => exact Execution.all_or_nothing hRun
    | error e => exact Execution.tables_of_error hRun

end Operation

end CardLedger
