import CardLedger.Authorization
import CardLedger.Proofs.Money

/-!
# The commit of a purchase

The commit writes the record, debits the card and completes the record. Here its outcome is told
exactly: for want of funds it ends in a conflict that names the balance it found, otherwise in the
store with the card debited and one completed purchase at the end of the record, unless the spend
windows of the instant cannot be told.
-/

namespace CardLedger

/-- The completed row of a purchase. -/
def PurchaseRequest.row (r : PurchaseRequest) (c : Card) (a : Ambient) (now : Instant) : Transaction :=
  (r.newTransaction c).completed (a.freshId 0) now a.now

@[simp]
theorem PurchaseRequest.row_id (r : PurchaseRequest) (c : Card) (a : Ambient) (now : Instant) :
    (r.row c a now).id = a.freshId 0 := rfl

theorem PurchaseRequest.isAmount_of_check {r : PurchaseRequest} {company : Uuid} {u : Unit}
    (hCheck : r.check company = .ok u) : isAmount r.amount = true := by
  obtain ⟨_, hAmount, -⟩ := bind_eq_ok_iff.mp hCheck
  exact isAmount_of_checkAmount hAmount

namespace Store

variable {s : Store} {a : Ambient} {card c : Card} {r : PurchaseRequest} {now : Instant}

/-- The store once a purchase with a card has been let through. -/
def withPurchase (s : Store) (a : Ambient) (card : Card) (r : PurchaseRequest) (now : Instant) :
    Store :=
  (s.modifyCard card.id (·.debited r.amount a.now)).withTransaction (r.row card a now)

@[simp]
theorem withPurchase_companies : (s.withPurchase a card r now).companies = s.companies := rfl

@[simp]
theorem withPurchase_queue : (s.withPurchase a card r now).queue = s.queue := rfl

@[simp]
theorem withPurchase_controls : (s.withPurchase a card r now).controls = s.controls := rfl

@[simp]
theorem withPurchase_transactions :
    (s.withPurchase a card r now).transactions = s.transactions ++ [r.row card a now] := rfl

theorem card?_withPurchase_self (hCard : s.card? card.id = some c) :
    (s.withPurchase a card r now).card? card.id = some (c.debited r.amount a.now) :=
  card?_modifyCard_self (·.debited r.amount a.now) (fun _ => rfl) hCard

end Store

namespace Authorizer

variable {z : Authorizer} {s held : Store} {a : Ambient} {card c : Card} {company : Uuid}
  {r : PurchaseRequest} {now : Instant} {advisories : List Advisory}

/-- What a card has spent in the windows of an instant, and what its limits leave. -/
def snapshot (z : Authorizer) (s : Store) (id : Uuid) (c : Card) (now : Instant) :
    Except Error SpendSnapshot := do
  let today ← s.spentToday z.offset id now
  let thisMonth ← s.spentThisMonth z.offset id now
  return { today, remainingDaily := c.dailyLimit.map (· - today)
           thisMonth, remainingMonthly := c.monthlyLimit.map (· - thisMonth) }

theorem snapshot_of_windows {day month : Window} (id : Uuid) (hDay : z.offset.dayWindow now = .ok day)
    (hMonth : z.offset.monthWindow now = .ok month) :
    z.snapshot s id c now =
      .ok { today := s.spentIn id day, remainingDaily := c.dailyLimit.map (· - s.spentIn id day)
            thisMonth := s.spentIn id month
            remainingMonthly := c.monthlyLimit.map (· - s.spentIn id month) } := by
  unfold snapshot Store.spentToday Store.spentThisMonth Store.spentDuring
  rw [hDay, hMonth]
  rfl

theorem snapshot_of_day_fault {fault : WindowFault} (id : Uuid)
    (hDay : z.offset.dayWindow now = .error fault) :
    z.snapshot s id c now = .error (.config (.window fault)) := by
  unfold snapshot Store.spentToday Store.spentDuring
  rw [hDay]
  rfl

theorem snapshot_of_month_fault {day : Window} {fault : WindowFault} (id : Uuid)
    (hDay : z.offset.dayWindow now = .ok day) (hMonth : z.offset.monthWindow now = .error fault) :
    z.snapshot s id c now = .error (.config (.window fault)) := by
  unfold snapshot Store.spentToday Store.spentThisMonth Store.spentDuring
  rw [hDay, hMonth]
  rfl

/-- What a commit reads back before it ends: the record of a transaction, and the snapshot. -/
def readBack (z : Authorizer) (s : Store) (record id : Uuid) (debited : Card) (now : Instant)
    (advisories : List Advisory) : Except Error AuthorizedPurchase :=
  match s.transaction? record with
  | none => .error (.transactionNotFound record)
  | some transaction => do
      let spend ← z.snapshot s id debited now
      return ⟨transaction, debited.balance, debited.lastFour, spend, advisories⟩

/-- A commit changes the store in three steps and then reads it back. -/
theorem commit_eq_readBack :
    z.commit s a card r now advisories = do
      let (record, written) ← s.createTransaction a (r.newTransaction card) now
      let (debited, lowered) ← liftFault conflict (written.debit a card.id r.amount)
      let purchase ← z.readBack (lowered.updateStatus a record.id .completed) record.id card.id debited
        now advisories
      return (purchase, lowered.updateStatus a record.id .completed) := by
  unfold commit readBack snapshot
  refine bind_congr fun written => bind_congr fun lowered => ?_
  dsimp only
  cases (lowered.2.updateStatus a written.1.id .completed).transaction? written.1.id with
  | none => rfl
  | some transaction =>
      cases (lowered.2.updateStatus a written.1.id .completed).spentToday z.offset card.id now with
      | error e => rfl
      | ok today =>
          cases (lowered.2.updateStatus a written.1.id .completed).spentThisMonth z.offset card.id
            now with
          | error e => rfl
          | ok thisMonth => rfl

/-- What a purchase returns once it is committed. -/
def receipt (a : Ambient) (card c : Card) (r : PurchaseRequest) (now : Instant)
    (spend : SpendSnapshot) (advisories : List Advisory) : AuthorizedPurchase :=
  { transaction := r.row card a now, remainingBalance := c.balance - r.amount
    cardLastFour := c.lastFour, spend, advisories }

theorem createTransaction_of_purchase (hAmount : isAmount r.amount = true)
    (hFresh : s.IsFresh (a.freshId 0)) (hCard : (s.card? card.id).isSome)
    (hHeld : s.overwriteBalance a.interference card.id = .ok held) :
    s.createTransaction a (r.newTransaction card) now =
      .ok ((r.newTransaction card).record (a.freshId 0) now,
        held.withTransaction ((r.newTransaction card).record (a.freshId 0) now)) :=
  Store.createTransaction_eq_ok_iff.mpr
    ⟨hAmount, hFresh, Option.isSome_iff_exists.mp hCard, held, hHeld, rfl⟩

/-- A purchase that the balance at its commit does not cover is told that balance. -/
theorem commit_of_short (hKeyed : s.CardsKeyed) (hAmount : isAmount r.amount = true)
    (hFresh : s.IsFresh (a.freshId 0)) (hFound : (s.card? card.id).isSome)
    (hHeld : s.overwriteBalance a.interference card.id = .ok held)
    (hCard : held.card? card.id = some c)
    (hShort : ¬ r.amount ≤ c.balance ∨ a.interference.cardUpdatesLost = true) :
    z.commit s a card r now advisories = .error (.commitConflict card.id c.balance r.amount) := by
  have hHeldKeyed := (Store.cardsKeyed_overwriteBalance hHeld).mpr hKeyed
  have hDebit := Store.debit_of_short (a := a)
    (s := held.withTransaction ((r.newTransaction card).record (a.freshId 0) now))
    (Store.cardsKeyed_withTransaction.mpr hHeldKeyed) hAmount hCard hShort
  unfold commit
  rw [createTransaction_of_purchase hAmount hFresh hFound hHeld, ok_bind]
  dsimp only
  rw [hDebit]
  rfl

/-- A purchase that the balance at its commit covers is committed as soon as its snapshot is told. -/
theorem commit_of_covered (hKeyed : s.CardsKeyed) (hAmount : isAmount r.amount = true)
    (hFresh : s.IsFresh (a.freshId 0)) (hFound : (s.card? card.id).isSome)
    (hHeld : s.overwriteBalance a.interference card.id = .ok held)
    (hCard : held.card? card.id = some c) (hCovered : r.amount ≤ c.balance)
    (hKept : a.interference.cardUpdatesLost = false) :
    z.commit s a card r now advisories = do
      let spend ← z.snapshot (held.withPurchase a card r now) card.id c now
      return (receipt a card c r now spend advisories, held.withPurchase a card r now) := by
  have hHeldKeyed := (Store.cardsKeyed_overwriteBalance hHeld).mpr hKeyed
  have hHeldFresh : held.IsFresh (a.freshId 0) := by
    unfold Store.IsFresh
    rwa [Store.transactions_overwriteBalance hHeld]
  have hDebit := Store.debit_of_covered (a := a)
    (s := held.withTransaction ((r.newTransaction card).record (a.freshId 0) now))
    (Store.cardsKeyed_withTransaction.mpr hHeldKeyed) hAmount hCard hCovered hKept
  have hStatus : ((held.modifyCard card.id (·.debited r.amount a.now)).withTransaction
      ((r.newTransaction card).record (a.freshId 0) now)).updateStatus a (a.freshId 0) .completed =
        held.withPurchase a card r now :=
    Store.updateStatus_withTransaction hHeldFresh .completed
  have hRow : (held.withPurchase a card r now).transaction? (a.freshId 0) =
      some (r.row card a now) :=
    Store.transaction?_withTransaction hHeldFresh
  rw [commit_eq_readBack, createTransaction_of_purchase hAmount hFresh hFound hHeld, ok_bind]
  dsimp only
  rw [hDebit, liftFault_ok, ok_bind]
  dsimp only
  rw [Store.modifyCard_withTransaction, NewTransaction.record_id, hStatus]
  unfold readBack
  rw [hRow]
  dsimp only
  -- the debit leaves the limits alone, and these are all that the snapshot reads of the card
  have hLimits : z.snapshot (held.withPurchase a card r now) card.id (c.debited r.amount a.now) now =
      z.snapshot (held.withPurchase a card r now) card.id c now := rfl
  rw [hLimits]
  cases z.snapshot (held.withPurchase a card r now) card.id c now with
  | error e => rfl
  | ok spend => rfl

/-- What a commit that went through has done: one balance lowered, one completed row added. -/
theorem commit_eq_ok {result : AuthorizedPurchase × Store} (hKeyed : s.CardsKeyed)
    (hCommit : z.commit s a card r now advisories = .ok result) :
    isAmount r.amount = true ∧ s.IsFresh (a.freshId 0) ∧
      ∃ held c spend, s.overwriteBalance a.interference card.id = .ok held ∧
        held.card? card.id = some c ∧ r.amount ≤ c.balance ∧
        z.snapshot (held.withPurchase a card r now) card.id c now = .ok spend ∧
        result = (receipt a card c r now spend advisories, held.withPurchase a card r now) := by
  obtain ⟨written, hCreate, hRest⟩ := bind_eq_ok_iff.mp hCommit
  obtain ⟨hAmount, hFresh, ⟨d, hFound⟩, held, hHeld, rfl⟩ :=
    Store.createTransaction_eq_ok_iff.mp hCreate
  obtain ⟨debited, hDebit, -⟩ := bind_eq_ok_iff.mp hRest
  have hHeldKeyed := (Store.cardsKeyed_overwriteBalance hHeld).mpr hKeyed
  obtain ⟨-, hKept, c, hCard, hCovered, -⟩ :=
    (Store.debit_eq_ok_iff (Store.cardsKeyed_withTransaction.mpr hHeldKeyed)).mp
      (liftFault_eq_ok_iff.mp hDebit)
  have hIsSome : (s.card? card.id).isSome := Option.isSome_iff_exists.mpr ⟨d, hFound⟩
  rw [commit_of_covered hKeyed hAmount hFresh hIsSome hHeld hCard hCovered hKept] at hCommit
  obtain ⟨spend, hSpend, hResult⟩ := bind_eq_ok_iff.mp hCommit
  exact ⟨hAmount, hFresh, held, c, spend, hHeld, hCard, hCovered, hSpend,
    (Except.ok.inj hResult).symm⟩

/-! ## The stages before the commit -/

theorem screen_eq_ok (hScreen : z.screen s company r now = .ok (card, advisories)) :
    s.cardOf? company r.card = some card ∧ z.checkUsable card now = .ok advisories ∧
      checkSufficient card r.amount = .ok () ∧ z.checkPeriods s card r.amount now = .ok () ∧
      z.checkPolicy s card r.merchantCategory now = .ok () := by
  obtain ⟨found, hGet, hRest⟩ := bind_eq_ok_iff.mp hScreen
  obtain ⟨noted, hUsable, hRest⟩ := bind_eq_ok_iff.mp hRest
  obtain ⟨_, hSufficient, hRest⟩ := bind_eq_ok_iff.mp hRest
  obtain ⟨_, hPeriods, hRest⟩ := bind_eq_ok_iff.mp hRest
  obtain ⟨_, hPolicy, hResult⟩ := bind_eq_ok_iff.mp hRest
  cases hResult
  exact ⟨Store.getCard_eq_ok_iff.mp hGet, hUsable, liftFault_eq_ok_iff.mp hSufficient, hPeriods,
    hPolicy⟩

theorem authorize_eq_ok {result : AuthorizedPurchase × Store}
    (hAuthorize : z.authorize s a company r now = .ok result) :
    r.check company = .ok () ∧ a.interference.storeSilent = false ∧ z.timeoutMs ≠ 0 ∧
      ∃ card advisories, z.screen s company r now = .ok (card, advisories) ∧
        z.commit s a card r now advisories = .ok result := by
  obtain ⟨_, hCheck, hRest⟩ := bind_eq_ok_iff.mp hAuthorize
  obtain ⟨hTime, hRest⟩ := unless_eq_ok_iff.mp hRest
  obtain ⟨hHeard, hTimeout⟩ := not_or.mp hTime
  obtain ⟨⟨card, advisories⟩, hScreen, hCommit⟩ := bind_eq_ok_iff.mp hRest
  exact ⟨hCheck, Bool.eq_false_of_not_eq_true hHeard, hTimeout, card, advisories, hScreen, hCommit⟩

/-- A purchase that goes through while nobody else sets balances: the card it is made with, and the store. -/
theorem authorize_withPurchase {result : AuthorizedPurchase × Store} (hKeyed : s.CardsKeyed)
    (hAlone : a.interference.balanceAfterRecord = none)
    (hAuthorize : z.authorize s a company r now = .ok result) :
    ∃ card advisories, s.cardOf? company r.card = some card ∧ z.checkUsable card now = .ok advisories ∧
      result.2 = s.withPurchase a card r now := by
  obtain ⟨-, -, -, card, advisories, hScreen, hCommit⟩ := authorize_eq_ok hAuthorize
  obtain ⟨hCard, hUsable, -⟩ := screen_eq_ok hScreen
  obtain ⟨-, -, held, -, -, hHeld, -, -, -, rfl⟩ := commit_eq_ok hKeyed hCommit
  rw [Store.held_eq_of_alone hAlone hHeld]
  exact ⟨card, advisories, hCard, hUsable, rfl⟩

end Authorizer

/-! ## A sample -/

namespace Sample

/-- A company. -/
def company : Uuid := .ofNat 1

/-- An active card of the company. -/
def card : Card :=
  { id := .ofNat 2, companyId := company, number := "4000001234567899"
    holder := "Employee - ada@example.org", employeeId := (Uuid.ofNat 3).toText
    employeeEmail := "ada@example.org", cardType := "virtual", status := CardStatus.active.name
    balance := 100, spendingLimit := some 80, dailyLimit := some 90, monthlyLimit := none
    expiry := ⟨4102444800, 0, by decide, by decide⟩, cvvHash := "", lastFour := "7899"
    createdAt := .epoch, updatedAt := .epoch, blockedAt := none, blockedReason := none }

/-- A store with nothing but the card. -/
def store : Store :=
  { cards := [card] }

theorem cardsKeyed_store : store.CardsKeyed := by
  unfold Store.CardsKeyed
  decide

/-- Surroundings that nobody interferes with. -/
def ambient : Ambient :=
  { now := .epoch, freshId := fun n => .ofNat (100 + n), draw := fun _ => 0 }

/-- A purchase with the card. -/
def request : PurchaseRequest :=
  { company, card := card.id, amount := 30, merchantCategory := " Food", merchantName := none }

end Sample

end CardLedger
