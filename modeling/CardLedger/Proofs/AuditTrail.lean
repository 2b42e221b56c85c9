import CardLedger.Proofs.Caps
import CardLedger.Proofs.MoneyFrames
import CardLedger.Proofs.Onboarding

/-!
# The record as an audit trail

Callers may use every operation, and may besides write to the record and move money in database
transactions of their own, which they keep or roll back. Whatever they do, in whatever surroundings
and however it ends, the record only grows at its end, by proper amounts. An entry that is there keeps
its place and all that it says; only a caller who names it moves its status.
-/

namespace CardLedger

/-! ## What callers do -/

/-- A write that callers may make in a transaction of their own. -/
inductive LedgerWrite where
  | record (new : NewTransaction) (createdAt : Instant)
  | move (transaction : Uuid) (status : TransactionStatus)
  | debit (card : Uuid) (amount : Float)
  | credit (card : Uuid) (amount : Float)

/-- The store that a write leaves if it goes through. -/
def LedgerWrite.apply (s : Store) (a : Ambient) : LedgerWrite → Except Error Store
  | record new createdAt => (s.createTransaction a new createdAt).map (·.2)
  | move transaction status => .ok (s.updateStatus a transaction status)
  | debit card amount => (s.debit a card amount).map (·.2)
  | credit card amount => (s.credit a card amount).map (·.2)

/-- Something that callers do: an operation, writes in a transaction that is kept or rolled back, or a
start of the ledger. -/
inductive Activity where
  | operation (operation : Operation) (a : Ambient)
  | writes (steps : List (LedgerWrite × Ambient)) (kept : Bool)
  | start (settings : Settings) (a : Nat → Ambient)

/-- Whether an activity moves the status of a transaction by name. -/
def Activity.moves (transaction : Uuid) : Activity → Prop
  | operation .. | start .. => False
  | writes steps kept => kept = true ∧ ∃ status a, (.move transaction status, a) ∈ steps

namespace Store

/-- The store after an attempt: what it leaves, or the old store if it fails. -/
def orLeft (s : Store) : Except Error Store → Store
  | .ok next => next
  | .error _ => s

/-- What holds of the old store and of whatever goes through holds after an attempt. -/
theorem orLeft_preserves {P : Store → Prop} {s : Store} {outcome : Except Error Store} (hOld : P s)
    (hOk : ∀ next, outcome = .ok next → P next) : P (s.orLeft outcome) := by
  cases outcome with
  | ok next => exact hOk next rfl
  | error e => exact hOld

/-- The store after a write, which fails or goes through by itself. -/
def afterWrite (s : Store) (write : LedgerWrite × Ambient) : Store :=
  s.orLeft (write.1.apply s write.2)

/-- The store after an activity. -/
def afterActivity (s : Store) : Activity → Store
  | .operation operation a => s.orLeft (operation.apply s a)
  | .writes steps kept => if kept then steps.foldl afterWrite s else s
  | .start settings a => (s.start a settings).2

/-- The store after activities, one after the other. -/
def afterActivities (s : Store) (activities : List Activity) : Store :=
  activities.foldl afterActivity s

@[simp]
theorem afterActivities_cons (s : Store) (activity : Activity) (later : List Activity) :
    s.afterActivities (activity :: later) = (s.afterActivity activity).afterActivities later := rfl

end Store

/-! ## What the record keeps -/

/-- What an entry of the record says for good. -/
structure TransactionEntry where
  id : Uuid
  cardId : Uuid
  companyId : Uuid
  type : TransactionType
  amount : Float
  merchantName : Option String
  merchantCategory : Option String
  description : String
  createdAt : Instant

/-- What a transaction says for good: all but its status and the times that go with it. -/
def Transaction.entry (t : Transaction) : TransactionEntry :=
  { id := t.id, cardId := t.cardId, companyId := t.companyId, type := t.type, amount := t.amount
    merchantName := t.merchantName, merchantCategory := t.merchantCategory
    description := t.description, createdAt := t.createdAt }

theorem Transaction.eq_of_entry {t later : Transaction} (hEntry : later.entry = t.entry) :
    later = { t with
      status := later.status, processedAt := later.processedAt, updatedAt := later.updatedAt } := by
  cases t
  cases later
  cases hEntry
  rfl

/-- A transaction says later what it said, and is the same unless it was moved. -/
structure Transaction.Audited (moved : Uuid → Prop) (t later : Transaction) : Prop where
  entry : later.entry = t.entry
  same : later ≠ t → moved t.id

/-- A record has become another one: its rows are kept, and proper amounts were added at the end. -/
structure RecordKept (moved : Uuid → Prop) (rows next : List Transaction) : Prop where
  kept : RowsKept (Transaction.Audited moved) rows next
  added : ∀ (i : Nat) t, rows.length ≤ i → next[i]? = some t → isAmount t.amount = true

variable {moved : Uuid → Prop} {rows next last : List Transaction}

namespace RecordKept

theorem refl : RecordKept moved rows rows where
  kept := .refl fun _ => ⟨rfl, fun hOther => absurd rfl hOther⟩
  added := by
    intro i t hLength hRow
    rw [List.getElem?_eq_none hLength] at hRow
    cases hRow

theorem trans (hFirst : RecordKept moved rows next) (hSecond : RecordKept moved next last) :
    RecordKept moved rows last where
  kept := by
    refine RowsKept.trans (fun {t later final} hLater hFinal => ?_) hFirst.kept hSecond.kept
    refine ⟨hFinal.entry.trans hLater.entry, fun hOther => ?_⟩
    by_cases hSame : later = t
    · rw [hSame] at hFinal
      exact hFinal.same hOther
    · exact hLater.same hSame
  added := by
    intro i t hLength hRow
    cases hMiddle : next[i]? with
    | none => exact hSecond.added i t (List.getElem?_eq_none_iff.mp hMiddle) hRow
    | some earlier =>
        obtain ⟨later, hLater, hKept⟩ := hSecond.kept i earlier hMiddle
        obtain rfl : later = t := Option.some.inj (hLater.symm.trans hRow)
        have hAmount : later.amount = earlier.amount := congrArg TransactionEntry.amount hKept.entry
        rw [hAmount]
        exact hFirst.added i earlier hLength hMiddle

theorem append {t : Transaction} (hAmount : isAmount t.amount = true) :
    RecordKept moved rows (rows ++ [t]) where
  kept := .append (fun _ => ⟨rfl, fun hOther => absurd rfl hOther⟩) [t]
  added := by
    intro i later hLength hRow
    rw [List.getElem?_append_right hLength] at hRow
    rw [List.mem_singleton.mp (List.mem_of_getElem? hRow)]
    exact hAmount

theorem mono {more : Uuid → Prop} (hMore : ∀ id, moved id → more id)
    (hKept : RecordKept moved rows next) : RecordKept more rows next where
  kept := by
    intro i t hRow
    obtain ⟨later, hLater, hAudited⟩ := hKept.kept i t hRow
    exact ⟨later, hLater, hAudited.entry, fun hOther => hMore _ (hAudited.same hOther)⟩
  added := hKept.added

theorem of_eq (hSame : next = rows) : RecordKept moved rows next := by
  rw [hSame]
  exact .refl

theorem of_append {t : Transaction} (hRecord : next = rows ++ [t]) (hAmount : isAmount t.amount = true) :
    RecordKept moved rows next := by
  rw [hRecord]
  exact .append hAmount

end RecordKept

variable {s next : Store} {a : Ambient} {i : Interference} {company card id : Uuid} {amount : Float}
  {status : TransactionStatus} {t : Transaction}

theorem recordKept_move : RecordKept (· = id) s.transactions (s.updateStatus a id status).transactions where
  kept := by
    refine .map fun t _ => ?_
    by_cases hId : t.id = id
    · rw [if_pos (beq_iff_eq.mpr hId)]
      exact ⟨rfl, fun _ => hId⟩
    · rw [if_neg (by simpa using hId)]
      exact ⟨rfl, fun hOther => absurd rfl hOther⟩
  added := by
    intro i t hLength hRow
    have hRows : (s.updateStatus a id status).transactions.length = s.transactions.length :=
      List.length_map _
    rw [List.getElem?_eq_none (by omega)] at hRow
    cases hRow

/-! ## Operations and the record

These lemmas ask nothing of the store, not even keys: what is written is new because the insertion has
looked for its identifier. -/

namespace Store

/-- A record that is written stands at the end under an identifier of its own. -/
theorem createTransaction_appends {new : NewTransaction} {createdAt : Instant}
    {result : Transaction × Store} (hCreate : s.createTransaction a new createdAt = .ok result) :
    isAmount new.amount = true ∧ s.IsFresh (a.freshId 0) ∧
      result.1 = new.record (a.freshId 0) createdAt ∧
      result.2.transactions = s.transactions ++ [new.record (a.freshId 0) createdAt] := by
  obtain ⟨hAmount, hFresh, -, held, hHeld, rfl⟩ := createTransaction_eq_ok_iff.mp hCreate
  refine ⟨hAmount, hFresh, rfl, ?_⟩
  rw [withTransaction_transactions, transactions_overwriteBalance hHeld]

/-- To complete a record that was just written leaves the older ones alone. -/
theorem transactions_updateStatus (hFresh : s.IsFresh t.id)
    (hRecord : next.transactions = s.transactions ++ [t]) :
    (next.updateStatus a t.id status).transactions = s.transactions ++ [t.moved status a.now] := by
  have hOld := hFresh.map_moved (·.moved status a.now)
  unfold Transaction.moved at *
  unfold updateStatus
  rw [hRecord, List.map_append, hOld]
  simp

theorem transactions_fundCard {result : Card × Store}
    (hFund : s.fundCard a company card amount = .ok result) :
    isAmount amount = true ∧ result.2.transactions =
      s.transactions ++ [(topUp company card amount).completed (a.freshId 0) a.now a.now] := by
  obtain ⟨_, -, hRest⟩ := bind_eq_ok_iff.mp hFund
  obtain ⟨_, -, hRest⟩ := bind_eq_ok_iff.mp hRest
  obtain ⟨written, hCreate, hRest⟩ := bind_eq_ok_iff.mp hRest
  obtain ⟨hAmount, hFresh, hRow, hRecord⟩ := createTransaction_appends hCreate
  obtain ⟨funded, hCredit, hResult⟩ := bind_eq_ok_iff.mp hRest
  cases hResult
  refine ⟨hAmount, ?_⟩
  dsimp only
  rw [hRow]
  have hFunded := congrArg Store.transactions (credit_frame hCredit)
  exact transactions_updateStatus hFresh (hFunded.trans hRecord)

theorem transactions_commit {z : Authorizer} {c : Card} {r : PurchaseRequest} {now : Instant}
    {advisories : List Advisory} {result : AuthorizedPurchase × Store}
    (hCommit : z.commit s a c r now advisories = .ok result) :
    isAmount r.amount = true ∧ result.2.transactions = s.transactions ++ [r.row c a now] := by
  rw [Authorizer.commit_eq_readBack] at hCommit
  obtain ⟨written, hCreate, hRest⟩ := bind_eq_ok_iff.mp hCommit
  obtain ⟨hAmount, hFresh, hRow, hRecord⟩ := createTransaction_appends hCreate
  obtain ⟨lowered, hDebit, hRest⟩ := bind_eq_ok_iff.mp hRest
  obtain ⟨_, -, hResult⟩ := bind_eq_ok_iff.mp hRest
  have hLowered := congrArg Store.transactions (debit_frame (liftFault_eq_ok_iff.mp hDebit))
  cases hResult
  refine ⟨hAmount, ?_⟩
  dsimp only
  rw [hRow]
  exact transactions_updateStatus hFresh (hLowered.trans hRecord)

theorem OnboardingEnd.transactions {a : Nat → Ambient} {settings : IssuanceSettings}
    {seed : CompanySeed} {outcome : Except Error Unit} (hEnd : s.OnboardingEnd a settings seed outcome next) :
    next.transactions = s.transactions := by
  cases hEnd with
  | known hKnown => rfl
  | refused hUnknown hRefused => rfl
  | registered hUnknown hRegister hNobody => rw [registerCompany_eq_ok hRegister]
  | unqueued hUnknown hRegister hSomebody hUnqueued => rw [registerCompany_eq_ok hRegister]
  | unissued hUnknown hRegister hSomebody hEnqueue hUnissued =>
      rw [(enqueue_eq_ok hEnqueue).2.2, registerCompany_eq_ok hRegister]
  | issued hUnknown hRegister hSomebody hEnqueue hIssue =>
      rw [issue_frame hIssue, (enqueue_eq_ok hEnqueue).2.2, registerCompany_eq_ok hRegister]

theorem transactions_start (a : Nat → Ambient) (settings : Settings) :
    (s.start a settings).2.transactions = s.transactions := by
  rw [start_snd]
  refine onboardAll_preserves (P := fun next => next.transactions = s.transactions) ?_ rfl a _
  intro _ _ _ _ _ hSame hEnd
  exact hEnd.transactions.trans hSame

end Store

/-! ## Everything that callers do -/

/-- An operation that goes through leaves the record as it was, or adds one entry of a proper amount. -/
theorem recordKept_of_apply {operation : Operation} (hApply : operation.apply s a = .ok next) :
    RecordKept moved s.transactions next.transactions := by
  unfold Operation.apply at hApply
  cases operation with
  | registerCompany new =>
      obtain ⟨result, hRun, rfl⟩ := map_eq_ok_iff.mp hApply
      exact .of_eq (by rw [Store.registerCompany_eq_ok hRun])
  | setCompanyStatus company status =>
      obtain ⟨result, hRun, rfl⟩ := map_eq_ok_iff.mp hApply
      exact .of_eq (by rw [Store.setCompanyStatus_eq_ok hRun])
  | enqueue company employees =>
      obtain ⟨result, hRun, rfl⟩ := map_eq_ok_iff.mp hApply
      exact .of_eq (by rw [(Store.enqueue_eq_ok hRun).2.2])
  | issue settings company =>
      obtain ⟨result, hRun, rfl⟩ := map_eq_ok_iff.mp hApply
      exact .of_eq (by rw [Store.issue_frame hRun])
  | fundCard company card amount =>
      obtain ⟨result, hRun, rfl⟩ := map_eq_ok_iff.mp hApply
      obtain ⟨hAmount, hRecord⟩ := Store.transactions_fundCard hRun
      exact .of_append hRecord hAmount
  | setSpendingLimit company card limit =>
      obtain ⟨result, hRun, rfl⟩ := map_eq_ok_iff.mp hApply
      obtain ⟨change, -, hStore⟩ := Store.setSpendingLimit_eq_ok hRun
      exact .of_eq (by rw [hStore, Store.modifyCard_transactions])
  | setPeriodLimits company card daily monthly =>
      obtain ⟨result, hRun, rfl⟩ := map_eq_ok_iff.mp hApply
      obtain ⟨change, -, hStore⟩ := Store.setPeriodLimits_eq_ok hRun
      exact .of_eq (by rw [hStore, Store.modifyCard_transactions])
  | blockCard company card reason =>
      obtain ⟨result, hRun, rfl⟩ := map_eq_ok_iff.mp hApply
      obtain ⟨change, -, hStore⟩ := Store.blockCard_eq_ok hRun
      exact .of_eq (by rw [hStore, Store.modifyCard_transactions])
  | upsertControl company card control =>
      obtain ⟨result, hRun, rfl⟩ := map_eq_ok_iff.mp hApply
      exact .of_eq (by rw [Store.upsertControl_eq_ok hRun])
  | deactivateControl company card kind =>
      obtain ⟨result, hRun, rfl⟩ := map_eq_ok_iff.mp hApply
      exact .of_eq (by rw [Store.deactivateControl_eq_ok hRun])
  | authorize z company r now =>
      obtain ⟨result, hRun, rfl⟩ := map_eq_ok_iff.mp hApply
      obtain ⟨-, -, -, c, advisories, -, hCommit⟩ := Authorizer.authorize_eq_ok hRun
      obtain ⟨hAmount, hRecord⟩ := Store.transactions_commit hCommit
      exact .of_append hRecord hAmount

/-- A single write moves the transaction that it names, if any. -/
theorem recordKept_of_write {write : LedgerWrite} (hApply : write.apply s a = .ok next) :
    RecordKept (fun id => ∃ status, write = .move id status) s.transactions next.transactions := by
  unfold LedgerWrite.apply at hApply
  cases write with
  | record new createdAt =>
      obtain ⟨result, hRun, rfl⟩ := map_eq_ok_iff.mp hApply
      obtain ⟨hAmount, -, -, hRecord⟩ := Store.createTransaction_appends hRun
      exact .of_append hRecord hAmount
  | move transaction status =>
      cases hApply
      refine recordKept_move.mono fun id hId => ⟨status, ?_⟩
      rw [hId]
  | debit card amount =>
      obtain ⟨result, hRun, rfl⟩ := map_eq_ok_iff.mp hApply
      exact .of_eq (by rw [Store.debit_frame hRun])
  | credit card amount =>
      obtain ⟨result, hRun, rfl⟩ := map_eq_ok_iff.mp hApply
      exact .of_eq (by rw [Store.credit_frame hRun])

theorem recordKept_writes (steps : List (LedgerWrite × Ambient)) :
    RecordKept (fun id => ∃ status a, (.move id status, a) ∈ steps) s.transactions
      (steps.foldl Store.afterWrite s).transactions := by
  induction steps generalizing s with
  | nil => exact .refl
  | cons step rest ih =>
      have hFirst : RecordKept (fun id => ∃ status, step.1 = .move id status) s.transactions
          (s.afterWrite step).transactions :=
        Store.orLeft_preserves (P := fun next => RecordKept _ s.transactions next.transactions) .refl
          fun next hApply => recordKept_of_write hApply
      refine (hFirst.mono ?_).trans (ih.mono ?_)
      · rintro id ⟨status, hMove⟩
        exact ⟨status, step.2, by rw [← hMove]; exact List.mem_cons_self⟩
      · rintro id ⟨status, a, hMem⟩
        exact ⟨status, a, List.mem_cons_of_mem step hMem⟩

theorem recordKept_activity (activity : Activity) :
    RecordKept (fun id => activity.moves id) s.transactions (s.afterActivity activity).transactions := by
  cases activity with
  | operation operation a =>
      exact Store.orLeft_preserves (P := fun next => RecordKept _ s.transactions next.transactions) .refl
        fun next hApply => recordKept_of_apply hApply
  | writes steps kept =>
      cases kept with
      | false => exact .refl
      | true => exact (recordKept_writes steps).mono fun id hMoved => ⟨rfl, hMoved⟩
  | start settings a => exact .of_eq (s.transactions_start a settings)

theorem recordKept_activities (activities : List Activity) :
    RecordKept (fun id => ∃ activity ∈ activities, activity.moves id) s.transactions
      (s.afterActivities activities).transactions := by
  induction activities generalizing s with
  | nil => exact .refl
  | cons activity rest ih =>
      refine ((recordKept_activity activity).mono fun id hMoved => ?_).trans (ih.mono fun id hMoved => ?_)
      · exact ⟨activity, List.mem_cons_self, hMoved⟩
      · obtain ⟨later, hMem, hMoves⟩ := hMoved
        exact ⟨later, List.mem_cons_of_mem activity hMem, hMoves⟩

/-- The record of transactions is an audit trail. From whatever store, and whatever callers do one after
the other: what the record says is where it was and as it was, more comes after it; an entry is the same
as before but for its status and the times that go with it, and these are the same as well unless
somebody has moved it by name; what was added is of a finite amount above zero. -/
theorem record_is_audit_trail (s : Store) (activities : List Activity) :
    s.transactions.map Transaction.entry <+:
        (s.afterActivities activities).transactions.map Transaction.entry ∧
      (∀ (i : Nat) t, s.transactions[i]? = some t →
        ∃ later, (s.afterActivities activities).transactions[i]? = some later ∧
          later = { t with
            status := later.status, processedAt := later.processedAt, updatedAt := later.updatedAt } ∧
          (later ≠ t → ∃ activity ∈ activities, activity.moves t.id)) ∧
      ∀ t ∈ (s.afterActivities activities).transactions.drop s.transactions.length,
        t.amount.isFinite = true ∧ 0 < t.amount := by
  have hKept := recordKept_activities (s := s) activities
  refine ⟨hKept.kept.map_prefix fun t later hAudited => hAudited.entry, fun i t hRow => ?_, fun t hMem => ?_⟩
  · obtain ⟨later, hLater, hAudited⟩ := hKept.kept i t hRow
    exact ⟨later, hLater, Transaction.eq_of_entry hAudited.entry, hAudited.same⟩
  · obtain ⟨i, hRow⟩ := List.mem_iff_getElem?.mp hMem
    rw [List.getElem?_drop] at hRow
    exact isAmount_iff.mp (hKept.added _ t (Nat.le_add_right _ i) hRow)

end CardLedger
