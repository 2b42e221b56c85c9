import CardLedger.Cards
import CardLedger.Proofs.Binary64
import CardLedger.Proofs.CardRows
import CardLedger.Proofs.Outcome

/-!
# Movements of money

The exact effect of the operations that move money: a debit and a credit change one row of the
cards, and a transaction that is completed in the same breath appears as one completed row at the
end of the record. Nothing else in the tables changes.
-/

namespace CardLedger

/-- A card with an amount taken off its balance. -/
def Card.debited (c : Card) (amount : Float) (now : Instant) : Card :=
  { c with balance := c.balance - amount, updatedAt := now }

/-- A card with an amount put onto its balance. -/
def Card.credited (c : Card) (amount : Float) (now : Instant) : Card :=
  { c with balance := c.balance + amount, updatedAt := now }

@[simp]
theorem Card.debited_id (c : Card) (amount : Float) (now : Instant) :
    (c.debited amount now).id = c.id := rfl

@[simp]
theorem Card.credited_id (c : Card) (amount : Float) (now : Instant) :
    (c.credited amount now).id = c.id := rfl

/-- A transaction with its status moved on. -/
def Transaction.moved (t : Transaction) (status : TransactionStatus) (now : Instant) : Transaction :=
  { t with status, processedAt := some now, updatedAt := now }

@[simp]
theorem NewTransaction.record_id (new : NewTransaction) (id : Uuid) (createdAt : Instant) :
    (new.record id createdAt).id = id := rfl

@[simp]
theorem NewTransaction.record_cardId (new : NewTransaction) (id : Uuid) (createdAt : Instant) :
    (new.record id createdAt).cardId = new.cardId := rfl

/-- The row of a new transaction once it has been completed. -/
def NewTransaction.completed (new : NewTransaction) (id : Uuid) (createdAt now : Instant) :
    Transaction :=
  (new.record id createdAt).moved .completed now

theorem checkAmount_of_isAmount {x : Float} (hAmount : isAmount x = true) :
    checkAmount x = .ok () := by
  unfold checkAmount
  rw [if_pos hAmount]

theorem isAmount_of_checkAmount {x : Float} {u : Unit} (hCheck : checkAmount x = .ok u) :
    isAmount x = true := by
  unfold checkAmount at hCheck
  by_cases hAmount : isAmount x = true
  · exact hAmount
  · rw [if_neg hAmount] at hCheck
    cases hCheck

theorem isAmount_iff {x : Float} : isAmount x = true ↔ x.isFinite = true ∧ 0 < x := by
  unfold isAmount
  rw [Bool.and_eq_true_iff, Bool.not_eq_true', decide_eq_false_iff_not]
  constructor
  · rintro ⟨hFinite, hPos⟩
    exact ⟨hFinite, (Binary64.not_le_iff (Binary64.isNaN_of_isFinite hFinite) rfl).mp hPos⟩
  · rintro ⟨hFinite, hPos⟩
    exact ⟨hFinite, (Binary64.not_le_iff (Binary64.isNaN_of_isFinite hFinite) rfl).mpr hPos⟩

theorem isAmount_of_checkLimit {limit : Option Float} {u : Unit}
    (hCheck : checkLimit limit = .ok u) : ∀ x, limit = some x → isAmount x = true := by
  intro x hSet
  rw [hSet] at hCheck
  exact isAmount_of_checkAmount hCheck

/-- The limits of a card are proper amounts as far as they are set. -/
structure Card.ProperLimits (c : Card) : Prop where
  spending : ∀ x, c.spendingLimit = some x → isAmount x = true
  daily : ∀ x, c.dailyLimit = some x → isAmount x = true
  monthly : ∀ x, c.monthlyLimit = some x → isAmount x = true

theorem Card.properLimits_of_unset {c : Card} (hSpending : c.spendingLimit = none)
    (hDaily : c.dailyLimit = none) (hMonthly : c.monthlyLimit = none) : c.ProperLimits where
  spending := by simp [hSpending]
  daily := by simp [hDaily]
  monthly := by simp [hMonthly]

namespace Store

variable {s : Store} {a : Ambient} {card company id : Uuid} {c : Card} {amount : Float}

theorem getCard_eq_ok_iff : s.getCard company id = .ok c ↔ s.cardOf? company id = some c := by
  unfold getCard
  cases s.cardOf? company id with
  | none => simp
  | some d => simp

/-! ## Debits and credits -/

theorem debit_of_missing (hAmount : isAmount amount = true) (hCard : s.card? card = none) :
    s.debit a card amount = .error (.cardNotFound card) := by
  unfold debit
  rw [checkAmount_of_isAmount hAmount, ok_bind, hCard]

/-- A debit that the balance does not cover, or whose update is lost, tells the balance it read. -/
theorem debit_of_short (hKeyed : s.CardsKeyed) (hAmount : isAmount amount = true)
    (hCard : s.card? card = some c)
    (hShort : ¬ amount ≤ c.balance ∨ a.interference.cardUpdatesLost = true) :
    s.debit a card amount = .error (.insufficientBalance card c.balance amount) := by
  unfold debit
  rw [checkAmount_of_isAmount hAmount, ok_bind, hCard]
  dsimp only
  by_cases hLess : c.balance < amount
  · rw [if_pos hLess]
  · -- the guard of the update asks again, and reaches no card if the update is lost
    have hNone := changeCards_count_eq_zero (i := a.interference) (·.debited amount a.now)
      (fun d => decide (amount ≤ d.balance)) hKeyed hCard (by simpa [or_comm] using hShort)
    unfold Card.debited at hNone
    rw [if_neg hLess, if_pos (by omega)]

/-- A debit that the balance covers takes the amount off this card and leaves all else alone. -/
theorem debit_of_covered (hKeyed : s.CardsKeyed) (hAmount : isAmount amount = true)
    (hCard : s.card? card = some c) (hCovered : amount ≤ c.balance)
    (hKept : a.interference.cardUpdatesLost = false) :
    s.debit a card amount =
      .ok (c.debited amount a.now, s.modifyCard card (·.debited amount a.now)) := by
  have hNotLess : ¬ c.balance < amount := fun hLess => Binary64.not_le_of_lt hLess hCovered
  have hChange := changeCards_of_guard (·.debited amount a.now)
    (fun d => decide (amount ≤ d.balance)) hKeyed hCard hKept (by simpa using hCovered)
  have hFound := card?_modifyCard_self (·.debited amount a.now) (fun _ => rfl) hCard
  unfold Card.debited at *
  unfold debit
  rw [checkAmount_of_isAmount hAmount, ok_bind, hCard]
  dsimp only
  rw [if_neg hNotLess, hChange]
  dsimp only
  rw [if_neg (by decide), hFound]

theorem debit_eq_ok_iff (hKeyed : s.CardsKeyed) {result : Card × Store} :
    s.debit a card amount = .ok result ↔
      isAmount amount = true ∧ a.interference.cardUpdatesLost = false ∧
        ∃ c, s.card? card = some c ∧ amount ≤ c.balance ∧
          result = (c.debited amount a.now, s.modifyCard card (·.debited amount a.now)) := by
  constructor
  · intro hDebit
    obtain ⟨_, hCheck, -⟩ := bind_eq_ok_iff.mp hDebit
    have hAmount := isAmount_of_checkAmount hCheck
    cases hCard : s.card? card with
    | none =>
        rw [debit_of_missing hAmount hCard] at hDebit
        cases hDebit
    | some c =>
        by_cases hShort : ¬ amount ≤ c.balance ∨ a.interference.cardUpdatesLost = true
        · rw [debit_of_short hKeyed hAmount hCard hShort] at hDebit
          cases hDebit
        · obtain ⟨hCovered, hLost⟩ := not_or.mp hShort
          have hLe := not_not.mp hCovered
          have hKept := Bool.eq_false_of_not_eq_true hLost
          rw [debit_of_covered hKeyed hAmount hCard hLe hKept] at hDebit
          exact ⟨hAmount, hKept, c, rfl, hLe, (Except.ok.inj hDebit).symm⟩
  · rintro ⟨hAmount, hKept, c, hCard, hCovered, rfl⟩
    exact debit_of_covered hKeyed hAmount hCard hCovered hKept

theorem credit_of_missing (hAmount : isAmount amount = true) (hCard : s.card? card = none) :
    s.credit a card amount = .error (.cardNotFound card) := by
  have hNone : s.cards.countP (fun c => c.id == card) = 0 := by
    simpa using card?_eq_none_iff.mp hCard
  unfold credit changeCards
  rw [checkAmount_of_isAmount hAmount, ok_bind]
  cases hLost : a.interference.cardUpdatesLost with
  | true => rfl
  | false =>
      rw [hNone]
      rfl

theorem credit_of_lost (hAmount : isAmount amount = true)
    (hLost : a.interference.cardUpdatesLost = true) :
    s.credit a card amount = .error (.cardNotFound card) := by
  unfold credit changeCards
  rw [checkAmount_of_isAmount hAmount, ok_bind, hLost]
  rfl

theorem credit_of_found (hKeyed : s.CardsKeyed) (hAmount : isAmount amount = true)
    (hCard : s.card? card = some c) (hKept : a.interference.cardUpdatesLost = false) :
    s.credit a card amount =
      .ok (c.credited amount a.now, s.modifyCard card (·.credited amount a.now)) := by
  have hChange := changeCards_of_key (·.credited amount a.now) hKeyed hCard hKept
  have hFound := card?_modifyCard_self (·.credited amount a.now) (fun _ => rfl) hCard
  unfold Card.credited at *
  unfold credit
  rw [checkAmount_of_isAmount hAmount, ok_bind, hChange]
  dsimp only
  rw [if_neg (by decide), hFound]

theorem credit_eq_ok_iff (hKeyed : s.CardsKeyed) {result : Card × Store} :
    s.credit a card amount = .ok result ↔
      isAmount amount = true ∧ a.interference.cardUpdatesLost = false ∧
        ∃ c, s.card? card = some c ∧
          result = (c.credited amount a.now, s.modifyCard card (·.credited amount a.now)) := by
  constructor
  · intro hCredit
    obtain ⟨_, hCheck, -⟩ := bind_eq_ok_iff.mp hCredit
    have hAmount := isAmount_of_checkAmount hCheck
    cases hLost : a.interference.cardUpdatesLost with
    | true =>
        rw [credit_of_lost hAmount hLost] at hCredit
        cases hCredit
    | false =>
        cases hCard : s.card? card with
        | none =>
            rw [credit_of_missing hAmount hCard] at hCredit
            cases hCredit
        | some c =>
            rw [credit_of_found hKeyed hAmount hCard hLost] at hCredit
            exact ⟨hAmount, rfl, c, rfl, (Except.ok.inj hCredit).symm⟩
  · rintro ⟨hAmount, hKept, c, hCard, rfl⟩
    exact credit_of_found hKeyed hAmount hCard hKept

/-! ## The record of transactions -/

variable {t : Transaction} {new : NewTransaction} {createdAt : Instant}

/-- The store with a transaction at the end of the record. -/
def withTransaction (s : Store) (t : Transaction) : Store :=
  { s with transactions := s.transactions ++ [t] }

/-- An identifier that no transaction has. -/
def IsFresh (s : Store) (id : Uuid) : Prop :=
  ∀ t ∈ s.transactions, t.id ≠ id

@[simp]
theorem withTransaction_companies : (s.withTransaction t).companies = s.companies := rfl

@[simp]
theorem withTransaction_cards : (s.withTransaction t).cards = s.cards := rfl

@[simp]
theorem withTransaction_queue : (s.withTransaction t).queue = s.queue := rfl

@[simp]
theorem withTransaction_controls : (s.withTransaction t).controls = s.controls := rfl

@[simp]
theorem withTransaction_transactions :
    (s.withTransaction t).transactions = s.transactions ++ [t] := rfl

@[simp]
theorem cardsKeyed_withTransaction : (s.withTransaction t).CardsKeyed ↔ s.CardsKeyed := Iff.rfl

@[simp]
theorem card?_withTransaction : (s.withTransaction t).card? id = s.card? id := rfl

theorem modifyCard_withTransaction {change : Card → Card} :
    (s.withTransaction t).modifyCard id change = (s.modifyCard id change).withTransaction t := rfl

theorem IsFresh.map_moved (hFresh : s.IsFresh id) (change : Transaction → Transaction) :
    (s.transactions.map fun t => if t.id == id then change t else t) = s.transactions := by
  have hSame : ∀ t ∈ s.transactions, (if t.id == id then change t else t) = t := by
    intro t hMem
    rw [if_neg (by simpa using hFresh t hMem)]
  exact (List.map_congr_left hSame).trans (List.map_id' _)

/-- Under a fresh identifier the row that is moved on is the one just appended. -/
theorem updateStatus_withTransaction (hFresh : s.IsFresh t.id) (status : TransactionStatus) :
    (s.withTransaction t).updateStatus a t.id status =
      s.withTransaction (t.moved status a.now) := by
  have hOld := hFresh.map_moved (·.moved status a.now)
  unfold Transaction.moved at *
  unfold updateStatus withTransaction
  rw [List.map_append, hOld]
  simp

theorem transaction?_withTransaction (hFresh : s.IsFresh t.id) :
    (s.withTransaction t).transaction? t.id = some t := by
  have hOld : s.transactions.find? (fun old => old.id == t.id) = none := by
    simpa [IsFresh] using hFresh
  unfold transaction?
  rw [withTransaction_transactions, List.find?_append, hOld]
  simp

/-! ## Balances that others set -/

variable {i : Interference} {held : Store}

theorem overwriteBalance_of_alone (hAlone : i.balanceAfterRecord = none) :
    s.overwriteBalance i card = .ok s := by
  unfold overwriteBalance
  rw [hAlone]

theorem held_eq_of_alone (hAlone : i.balanceAfterRecord = none) (hHeld : s.overwriteBalance i card = .ok held) :
    held = s := by
  rw [overwriteBalance_of_alone hAlone] at hHeld
  exact (Except.ok.inj hHeld).symm

/-- Whatever others do about the balance of a card, nothing else has changed. -/
theorem overwriteBalance_eq_ok (hHeld : s.overwriteBalance i card = .ok held) :
    ∃ balance : Card → Float, held = s.modifyCard card fun c => { c with balance := balance c } := by
  have hUntouched : s = s.modifyCard card fun c => { c with balance := c.balance } :=
    modifyCard_unchanged.symm
  unfold overwriteBalance at hHeld
  cases hSet : i.balanceAfterRecord with
  | none =>
      rw [hSet] at hHeld
      cases hHeld
      exact ⟨(·.balance), hUntouched⟩
  | some balance =>
      rw [hSet] at hHeld
      dsimp only at hHeld
      cases hLost : i.cardUpdatesLost with
      | true =>
          rw [if_pos hLost] at hHeld
          cases hHeld
          exact ⟨(·.balance), hUntouched⟩
      | false =>
          rw [if_neg (by simp [hLost]), unless_eq_ok_iff] at hHeld
          obtain ⟨-, hStore⟩ := hHeld
          refine ⟨fun _ => storedAmount balance, (Except.ok.inj hStore).symm.trans ?_⟩
          unfold changeCards modifyCard
          rw [if_neg (by simp [hLost])]
          simp

theorem cardsKeyed_overwriteBalance (hHeld : s.overwriteBalance i card = .ok held) :
    held.CardsKeyed ↔ s.CardsKeyed := by
  obtain ⟨balance, rfl⟩ := overwriteBalance_eq_ok hHeld
  exact cardsKeyed_modifyCard fun _ => rfl

theorem transactions_overwriteBalance (hHeld : s.overwriteBalance i card = .ok held) :
    held.transactions = s.transactions := by
  obtain ⟨balance, rfl⟩ := overwriteBalance_eq_ok hHeld
  rfl

theorem overwriteBalance_withTransaction :
    (s.withTransaction t).overwriteBalance i card =
      (s.overwriteBalance i card).map (·.withTransaction t) := by
  unfold overwriteBalance changeCards
  cases i.balanceAfterRecord with
  | none => rfl
  | some balance =>
      dsimp only
      split
      · rfl
      · split
        · rfl
        · rfl

/-! ## Writing a record -/

theorem insertTransaction_eq (hFresh : s.IsFresh t.id) (hCard : s.card? t.cardId = some c) :
    s.insertTransaction i t = (s.overwriteBalance i t.cardId).map (·.withTransaction t) := by
  have hNew : ¬ (s.transactions.any fun old => old.id == t.id) = true := by
    simpa [IsFresh] using hFresh
  unfold insertTransaction
  rw [if_neg hNew, if_neg (by simp [hCard])]
  exact overwriteBalance_withTransaction

/-- A record is written exactly for an amount and a card, under a fresh identifier. -/
theorem createTransaction_eq_ok_iff {result : Transaction × Store} :
    s.createTransaction a new createdAt = .ok result ↔
      isAmount new.amount = true ∧ s.IsFresh (a.freshId 0) ∧ (∃ c, s.card? new.cardId = some c) ∧
        ∃ held, s.overwriteBalance a.interference new.cardId = .ok held ∧
          result = (new.record (a.freshId 0) createdAt,
            held.withTransaction (new.record (a.freshId 0) createdAt)) := by
  constructor
  · intro hCreate
    obtain ⟨_, hCheck, hRest⟩ := bind_eq_ok_iff.mp hCreate
    obtain ⟨after, hInsert, hResult⟩ := bind_eq_ok_iff.mp hRest
    obtain ⟨hNew, hRow⟩ := unless_eq_ok_iff.mp hInsert
    obtain ⟨hFound, -⟩ := unless_eq_ok_iff.mp hRow
    have hFresh : s.IsFresh (a.freshId 0) := by
      simpa [IsFresh] using hNew
    obtain ⟨c, hCard⟩ : ∃ c, s.card? new.cardId = some c := by
      simpa [Option.ne_none_iff_exists'] using hFound
    rw [insertTransaction_eq hFresh hCard] at hInsert
    obtain ⟨held, hHeld, rfl⟩ := map_eq_ok_iff.mp hInsert
    exact ⟨isAmount_of_checkAmount hCheck, hFresh, ⟨c, hCard⟩, held, hHeld,
      (Except.ok.inj hResult).symm⟩
  · rintro ⟨hAmount, hFresh, ⟨c, hCard⟩, held, hHeld, rfl⟩
    have hInsert := insertTransaction_eq (i := a.interference)
      (t := new.record (a.freshId 0) createdAt) hFresh hCard
    rw [NewTransaction.record_cardId, hHeld] at hInsert
    unfold createTransaction
    rw [checkAmount_of_isAmount hAmount, ok_bind]
    dsimp only
    rw [hInsert]
    rfl

/-- Loading funds raises one balance and leaves one completed charge. -/
theorem fundCard_eq_ok {result : Card × Store} (hKeyed : s.CardsKeyed)
    (hFund : s.fundCard a company card amount = .ok result) :
    isAmount amount = true ∧ s.IsFresh (a.freshId 0) ∧
      ∃ held c, s.overwriteBalance a.interference card = .ok held ∧ held.card? card = some c ∧
        result = (c.credited amount a.now,
          (held.modifyCard card (·.credited amount a.now)).withTransaction
            ((topUp company card amount).completed (a.freshId 0) a.now a.now)) := by
  obtain ⟨_, hCheck, hRest⟩ := bind_eq_ok_iff.mp hFund
  obtain ⟨_, -, hRest⟩ := bind_eq_ok_iff.mp hRest
  obtain ⟨written, hCreate, hRest⟩ := bind_eq_ok_iff.mp hRest
  obtain ⟨-, hFresh, -, held, hHeld, rfl⟩ := createTransaction_eq_ok_iff.mp hCreate
  obtain ⟨funded, hCredit, hResult⟩ := bind_eq_ok_iff.mp hRest
  -- the credit sees the balance that others have set since the card was looked up
  have hHeldKeyed := (cardsKeyed_overwriteBalance hHeld).mpr hKeyed
  obtain ⟨hAmount, -, c, hCard, rfl⟩ :=
    (credit_eq_ok_iff (cardsKeyed_withTransaction.mpr hHeldKeyed)).mp hCredit
  refine ⟨hAmount, hFresh, held, c, hHeld, hCard, (Except.ok.inj hResult).symm.trans ?_⟩
  have hHeldFresh : held.IsFresh (a.freshId 0) := by
    unfold IsFresh
    rwa [transactions_overwriteBalance hHeld]
  rw [modifyCard_withTransaction, updateStatus_withTransaction hHeldFresh]
  rfl

end Store

end CardLedger
