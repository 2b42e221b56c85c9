import CardLedger.Proofs.Purchase

/-!
# The two tests of a balance

A debit asks twice whether the balance covers the amount: it compares the balance that it has read, and its
update is guarded by the opposite comparison. Both look at one row under its primary key, and balances are
numbers, so the tests agree as long as no update is lost. Two branches of a debit are then never taken: the
one for an update that reached no row, and the one for a card that is gone after the update.

A failing call leaves no store in the model, and so what it had written by then cannot be told from its
result. `Store.debitWithin` and `Store.creditWithin` say it statement by statement, with the outcomes of the
two branches as parameters: whatever these are, nothing has been written when a call fails.

Main statement: `balance_tests_agree`.
-/

namespace CardLedger

/-- How the caller ends a database transaction in which everything has gone through. -/
inductive Ending where
  | commit
  | rollback
  deriving DecidableEq

namespace Store

/-- A call in a database transaction of its own, which is rolled back if the call fails: what it returns,
and the tables afterwards. -/
def inTransaction {α : Type} (s : Store) (ending : Ending) (call : Store → Except Error (α × Store)) :
    Except Error α × Store :=
  match call s with
  | .error e => (.error e, s)
  | .ok (v, written) =>
      match ending with
      | .commit => (.ok v, written)
      | .rollback => (.ok v, s)

/-- What comes of an update: the card that is read again, or a failure if it is gone. -/
def readAgain (written : Store) (card : Uuid) (gone : Error) : Except Error Card × Store :=
  match written.card? card with
  | some c => (.ok c, written)
  | none => (.error gone, written)

/-- The statements of a debit inside a database transaction: what it returns, and the store that it works
on as they have left it, also if it fails. What it says of an update that reached no row and of a card that
is gone after the update is left open. -/
def debitWithin (s : Store) (a : Ambient) (card : Uuid) (amount : Float) (unmatched : Card → Error)
    (gone : Error) : Except Error Card × Store :=
  if isAmount amount then
    match s.card? card with
    | none => (.error (.cardNotFound card), s)
    | some read =>
        if read.balance < amount then (.error (.insufficientBalance card read.balance amount), s)
        else
          let (written, count) := s.changeCards a.interference
            (fun c => c.id == card && decide (amount ≤ c.balance)) (·.debited amount a.now)
          if count ≠ 1 then (.error (unmatched read), written) else written.readAgain card gone
  else (.error (.invalidAmount amount), s)

/-- The statements of a credit inside a database transaction. -/
def creditWithin (s : Store) (a : Ambient) (card : Uuid) (amount : Float) (gone : Error) :
    Except Error Card × Store :=
  if isAmount amount then
    let (written, count) := s.changeCards a.interference (fun c => c.id == card) (·.credited amount a.now)
    if count = 0 then (.error (.cardNotFound card), written) else written.readAgain card gone
  else (.error (.invalidAmount amount), s)

/-- The result of statements that were run inside a database transaction; a failure keeps no store. -/
def settled (within : Except Error Card × Store) : Except Error (Card × Store) :=
  within.1.map fun c => (c, within.2)

/-- What a call that changes one card does in a database transaction of its own: it succeeds exactly if
the card is there and the call allows it, and it then returns the row that it leaves. -/
structure ChangesOneCard (s : Store) (card : Uuid) (allows : Card → Prop) (change : Card → Card)
    (call : Store → Except Error (Card × Store)) : Prop where
  succeeds : ∀ ending,
    (∃ c, (s.inTransaction ending call).1 = .ok c) ↔ ∃ c, s.card? card = some c ∧ allows c
  returns : ∀ ending c, (s.inTransaction ending call).1 = .ok c →
    ∃ old, s.card? card = some old ∧ c = change old
  commits : ∀ c after, s.inTransaction .commit call = (.ok c, after) →
    after = s.modifyCard card change ∧ after.card? card = some c
  keeps : ∀ ending, (ending = .rollback ∨ ∃ e, (s.inTransaction ending call).1 = .error e) →
    (s.inTransaction ending call).2 = s

variable {s written : Store} {a : Ambient} {card : Uuid} {amount : Float} {c : Card} {gone : Error}

theorem settled_readAgain :
    settled (written.readAgain card gone) =
      match written.card? card with
      | some c => .ok (c, written)
      | none => .error gone := by
  unfold readAgain
  cases written.card? card with
  | none => rfl
  | some c => rfl

/-- A debit is the result of its statements, with the two failures that it has for the two branches. -/
theorem debit_eq_settled :
    s.debit a card amount =
      settled (s.debitWithin a card amount (fun read => .insufficientBalance card read.balance amount)
        (.cardNotFound card)) := by
  unfold debit debitWithin checkAmount Card.debited
  by_cases hAmount : isAmount amount = true
  · rw [if_pos hAmount, if_pos hAmount, ok_bind]
    cases s.card? card with
    | none => rfl
    | some read =>
        dsimp only
        split_ifs
        · rfl
        · rfl
        · exact settled_readAgain.symm
  · rw [if_neg hAmount, if_neg hAmount]
    rfl

theorem credit_eq_settled :
    s.credit a card amount = settled (s.creditWithin a card amount (.cardNotFound card)) := by
  unfold credit creditWithin checkAmount Card.credited
  by_cases hAmount : isAmount amount = true
  · rw [if_pos hAmount, if_pos hAmount, ok_bind]
    dsimp only
    split_ifs
    · rfl
    · exact settled_readAgain.symm
  · rw [if_neg hAmount, if_neg hAmount]
    rfl

/-! ## The branches that are taken -/

/-- An update under the identifier of no card reaches nothing. -/
theorem changeCards_of_missing {i : Interference} (change : Card → Card) (hCard : s.card? card = none) :
    s.changeCards i (fun c => c.id == card) change = (s, 0) := by
  have hOther : ∀ c ∈ s.cards, ¬ (c.id == card) = true := by
    simpa using card?_eq_none_iff.mp hCard
  have hSame : (s.cards.map fun c => if c.id == card then change c else c) = s.cards :=
    (List.map_congr_left fun c hc => if_neg (hOther c hc)).trans (List.map_id' _)
  unfold changeCards
  rw [hSame, List.countP_eq_zero.mpr hOther, ite_self]

/-- A card that an update has reached is there when it is read again. -/
theorem readAgain_modifyCard (change : Card → Card) (hId : ∀ c, (change c).id = c.id)
    (hCard : s.card? card = some c) :
    (s.modifyCard card change).readAgain card gone = (.ok (change c), s.modifyCard card change) := by
  unfold readAgain
  rw [card?_modifyCard_self change hId hCard]

section Undisturbed

variable (hKeyed : s.CardsKeyed) (hKept : a.interference.cardUpdatesLost = false)

include hKeyed hKept

/-- What the statements of a credit come to is told by whether the card is there. -/
theorem creditWithin_eq (gone : Error) :
    s.creditWithin a card amount gone =
      if isAmount amount then
        match s.card? card with
        | none => (.error (.cardNotFound card), s)
        | some c => (.ok (c.credited amount a.now), s.modifyCard card (·.credited amount a.now))
      else (.error (.invalidAmount amount), s) := by
  unfold creditWithin
  by_cases hAmount : isAmount amount = true
  · rw [if_pos hAmount, if_pos hAmount]
    cases hCard : s.card? card with
    | none =>
        rw [changeCards_of_missing (·.credited amount a.now) hCard]
        rfl
    | some c =>
        rw [changeCards_of_key (·.credited amount a.now) hKeyed hCard hKept]
        exact readAgain_modifyCard (·.credited amount a.now) (fun _ => rfl) hCard
  · rw [if_neg hAmount, if_neg hAmount]

theorem credit_eq_creditWithin (gone : Error) :
    s.credit a card amount = settled (s.creditWithin a card amount gone) := by
  rw [credit_eq_settled, creditWithin_eq hKeyed hKept, creditWithin_eq hKeyed hKept]

/-- Nothing has been written by the time that a credit fails. -/
theorem creditWithin_store_of_error {e : Error} (gone : Error)
    (hError : (s.creditWithin a card amount gone).1 = .error e) :
    (s.creditWithin a card amount gone).2 = s := by
  rw [creditWithin_eq hKeyed hKept] at hError ⊢
  by_cases hAmount : isAmount amount = true
  · rw [if_pos hAmount] at hError ⊢
    cases hCard : s.card? card with
    | none => rfl
    | some c =>
        rw [hCard] at hError
        cases hError
  · rw [if_neg hAmount]

variable (hNumbers : ∀ c ∈ s.cards, c.balance.isNaN = false)

include hNumbers

/-- What the statements of a debit come to is told by the balance as it was read. -/
theorem debitWithin_eq (unmatched : Card → Error) (gone : Error) :
    s.debitWithin a card amount unmatched gone =
      if isAmount amount then
        match s.card? card with
        | none => (.error (.cardNotFound card), s)
        | some c =>
            if c.balance < amount then (.error (.insufficientBalance card c.balance amount), s)
            else (.ok (c.debited amount a.now), s.modifyCard card (·.debited amount a.now))
      else (.error (.invalidAmount amount), s) := by
  unfold debitWithin
  by_cases hAmount : isAmount amount = true
  · rw [if_pos hAmount, if_pos hAmount]
    cases hCard : s.card? card with
    | none => rfl
    | some c =>
        dsimp only
        by_cases hLess : c.balance < amount
        · rw [if_pos hLess, if_pos hLess]
        · -- the balance is a number, so what the first test lets through meets the guard of the update
          have hCovered : amount ≤ c.balance :=
            Binary64.le_of_not_lt (hNumbers c (mem_of_card? hCard).1)
              (Binary64.isNaN_of_isFinite (isAmount_iff.mp hAmount).1) hLess
          rw [if_neg hLess, if_neg hLess, changeCards_of_guard (·.debited amount a.now)
            (fun d => decide (amount ≤ d.balance)) hKeyed hCard hKept (by simpa using hCovered)]
          exact readAgain_modifyCard (·.debited amount a.now) (fun _ => rfl) hCard
  · rw [if_neg hAmount, if_neg hAmount]

theorem debit_eq_debitWithin (unmatched : Card → Error) (gone : Error) :
    s.debit a card amount = settled (s.debitWithin a card amount unmatched gone) := by
  rw [debit_eq_settled, debitWithin_eq hKeyed hKept hNumbers, debitWithin_eq hKeyed hKept hNumbers]

theorem debitWithin_store_of_error {e : Error} (unmatched : Card → Error) (gone : Error)
    (hError : (s.debitWithin a card amount unmatched gone).1 = .error e) :
    (s.debitWithin a card amount unmatched gone).2 = s := by
  rw [debitWithin_eq hKeyed hKept hNumbers] at hError ⊢
  by_cases hAmount : isAmount amount = true
  · rw [if_pos hAmount] at hError ⊢
    cases hCard : s.card? card with
    | none => rfl
    | some c =>
        rw [hCard] at hError
        dsimp only at hError ⊢
        by_cases hLess : c.balance < amount
        · rw [if_pos hLess]
        · rw [if_neg hLess] at hError
          cases hError
  · rw [if_neg hAmount]

/-- The balance that a debit reports is the one of the card, and it is too small. -/
theorem debit_eq_insufficientBalance {id : Uuid} {available required : Float}
    (hDebit : s.debit a card amount = .error (.insufficientBalance id available required)) :
    id = card ∧ required = amount ∧
      ∃ c, s.card? card = some c ∧ available = c.balance ∧ c.balance < amount := by
  rw [debit_eq_settled, debitWithin_eq hKeyed hKept hNumbers] at hDebit
  by_cases hAmount : isAmount amount = true
  · rw [if_pos hAmount] at hDebit
    cases hCard : s.card? card with
    | none =>
        rw [hCard] at hDebit
        cases hDebit
    | some c =>
        rw [hCard] at hDebit
        dsimp only at hDebit
        by_cases hLess : c.balance < amount
        · rw [if_pos hLess] at hDebit
          cases hDebit
          exact ⟨rfl, rfl, c, rfl, rfl, hLess⟩
        · rw [if_neg hLess] at hDebit
          cases hDebit
  · rw [if_neg hAmount] at hDebit
    cases hDebit

end Undisturbed

/-! ## One changed card -/

theorem inTransaction_fst_eq_ok_iff {call : Store → Except Error (Card × Store)} {ending : Ending} :
    (s.inTransaction ending call).1 = .ok c ↔ ∃ after, call s = .ok (c, after) := by
  unfold inTransaction
  cases call s with
  | error e => simp
  | ok result => cases ending <;> simp [Prod.ext_iff]

theorem inTransaction_fst_eq_error_iff {call : Store → Except Error (Card × Store)} {ending : Ending}
    {e : Error} : (s.inTransaction ending call).1 = .error e ↔ call s = .error e := by
  unfold inTransaction
  cases call s with
  | error fault => simp
  | ok result => cases ending <;> simp

theorem changesOneCard_of_iff {allows : Card → Prop} {change : Card → Card}
    {call : Store → Except Error (Card × Store)} (hId : ∀ c, (change c).id = c.id)
    (hCall : ∀ result, call s = .ok result ↔
      ∃ c, s.card? card = some c ∧ allows c ∧ result = (change c, s.modifyCard card change)) :
    s.ChangesOneCard card allows change call where
  succeeds ending := by
    simp only [inTransaction_fst_eq_ok_iff]
    constructor
    · rintro ⟨c, after, hOk⟩
      obtain ⟨old, hCard, hAllowed, -⟩ := (hCall _).mp hOk
      exact ⟨old, hCard, hAllowed⟩
    · rintro ⟨old, hCard, hAllowed⟩
      exact ⟨_, _, (hCall _).mpr ⟨old, hCard, hAllowed, rfl⟩⟩
  returns ending c hReturned := by
    obtain ⟨after, hOk⟩ := inTransaction_fst_eq_ok_iff.mp hReturned
    obtain ⟨old, hCard, -, hResult⟩ := (hCall _).mp hOk
    exact ⟨old, hCard, (Prod.ext_iff.mp hResult).1⟩
  commits c after hCommit := by
    have hReturned := congrArg Prod.fst hCommit
    obtain ⟨written, hOk⟩ := inTransaction_fst_eq_ok_iff.mp hReturned
    obtain ⟨old, hCard, -, hResult⟩ := (hCall _).mp hOk
    unfold inTransaction at hCommit
    rw [hOk, hResult] at hCommit
    cases hCommit
    exact ⟨rfl, card?_modifyCard_self change hId hCard⟩
  keeps ending hKept := by
    rcases hKept with rfl | ⟨e, hError⟩
    · unfold inTransaction
      cases call s with
      | error e => rfl
      | ok result => rfl
    · unfold inTransaction
      rw [inTransaction_fst_eq_error_iff.mp hError]

end Store

/-- The two tests of a balance never disagree: a debit goes through exactly if the balance covers a proper
amount, a credit exactly if there is a card for a proper amount. Whatever the branches for an update that
reached no row and for a card that is gone would do, it makes no difference, and a call that fails has
written nothing. -/
theorem balance_tests_agree (s : Store) (a : Ambient) (card : Uuid) (amount : Float)
    (hKeyed : s.CardsKeyed) (hNumbers : ∀ c ∈ s.cards, c.balance.isNaN = false)
    (hKept : a.interference.cardUpdatesLost = false) :
    (amount.isFinite = true → ∀ c ∈ s.cards, (¬ c.balance < amount ↔ amount ≤ c.balance)) ∧
    s.ChangesOneCard card (fun c => amount.isFinite = true ∧ 0 < amount ∧ amount ≤ c.balance)
      (fun c => { c with balance := c.balance - amount, updatedAt := a.now }) (·.debit a card amount) ∧
    s.ChangesOneCard card (fun _ => amount.isFinite = true ∧ 0 < amount)
      (fun c => { c with balance := c.balance + amount, updatedAt := a.now }) (·.credit a card amount) ∧
    (∀ ending id available required, (s.inTransaction ending (·.debit a card amount)).1 =
        .error (.insufficientBalance id available required) →
      id = card ∧ required = amount ∧
        ∃ c, s.card? card = some c ∧ available = c.balance ∧ c.balance < amount) ∧
    (∀ unmatched gone, s.debit a card amount = Store.settled (s.debitWithin a card amount unmatched gone) ∧
      ∀ e, (s.debitWithin a card amount unmatched gone).1 = .error e →
        (s.debitWithin a card amount unmatched gone).2 = s) ∧
    ∀ gone, s.credit a card amount = Store.settled (s.creditWithin a card amount gone) ∧
      ∀ e, (s.creditWithin a card amount gone).1 = .error e →
        (s.creditWithin a card amount gone).2 = s := by
  refine ⟨fun hFinite c hc => Binary64.not_lt_iff (hNumbers c hc) (Binary64.isNaN_of_isFinite hFinite),
    Store.changesOneCard_of_iff (fun _ => rfl) fun result => ?_,
    Store.changesOneCard_of_iff (fun _ => rfl) fun result => ?_,
    fun ending id available required hError => ?_, fun unmatched gone => ⟨?_, fun e => ?_⟩,
    fun gone => ⟨?_, fun e => ?_⟩⟩
  · rw [Store.debit_eq_ok_iff hKeyed, isAmount_iff]
    constructor
    · rintro ⟨⟨hFinite, hPos⟩, -, c, hCard, hCovered, rfl⟩
      exact ⟨c, hCard, ⟨hFinite, hPos, hCovered⟩, rfl⟩
    · rintro ⟨c, hCard, ⟨hFinite, hPos, hCovered⟩, rfl⟩
      exact ⟨⟨hFinite, hPos⟩, hKept, c, hCard, hCovered, rfl⟩
  · rw [Store.credit_eq_ok_iff hKeyed, isAmount_iff]
    constructor
    · rintro ⟨hProper, -, c, hCard, rfl⟩
      exact ⟨c, hCard, hProper, rfl⟩
    · rintro ⟨c, hCard, hProper, rfl⟩
      exact ⟨hProper, hKept, c, hCard, rfl⟩
  · exact Store.debit_eq_insufficientBalance hKeyed hKept hNumbers
      (Store.inTransaction_fst_eq_error_iff.mp hError)
  · exact Store.debit_eq_debitWithin hKeyed hKept hNumbers unmatched gone
  · exact Store.debitWithin_store_of_error hKeyed hKept hNumbers unmatched gone
  · exact Store.credit_eq_creditWithin hKeyed hKept gone
  · exact Store.creditWithin_store_of_error hKeyed hKept gone

/-- Of a balance of 100 a debit of 30 leaves 70, and none of 130 goes through, however the database
transaction ends. -/
theorem balance_tests_agree_of_sample :
    Sample.store.CardsKeyed ∧ (∀ c ∈ Sample.store.cards, c.balance.isNaN = false) ∧
      Sample.ambient.interference.cardUpdatesLost = false ∧
      (∃ c after, Sample.store.inTransaction .commit (·.debit Sample.ambient Sample.card.id 30) =
          (.ok c, after) ∧ after.card? Sample.card.id = some c ∧ c.balance = 70) ∧
      ∀ ending c, (Sample.store.inTransaction ending (·.debit Sample.ambient Sample.card.id 130)).1 ≠ .ok c := by
  have hNumbers : ∀ c ∈ Sample.store.cards, c.balance.isNaN = false := by
    intro c hc
    obtain rfl := List.mem_singleton.mp hc
    rfl
  obtain ⟨-, hCovered, -⟩ := balance_tests_agree Sample.store Sample.ambient Sample.card.id 30
    Sample.cardsKeyed_store hNumbers rfl
  obtain ⟨-, hShort, -⟩ := balance_tests_agree Sample.store Sample.ambient Sample.card.id 130
    Sample.cardsKeyed_store hNumbers rfl
  have hCard : Sample.store.card? Sample.card.id = some Sample.card := by decide
  refine ⟨Sample.cardsKeyed_store, hNumbers, rfl, ?_, fun ending c hReturned => ?_⟩
  · obtain ⟨c, hReturned⟩ := (hCovered.succeeds .commit).mpr ⟨Sample.card, hCard, by decide⟩
    obtain ⟨old, hOld, rfl⟩ := hCovered.returns .commit c hReturned
    obtain rfl := Option.some.inj (hCard.symm.trans hOld)
    exact ⟨_, _, Prod.ext hReturned rfl, (hCovered.commits _ _ (Prod.ext hReturned rfl)).2, by decide +kernel⟩
  · obtain ⟨old, hOld, -, -, hEnough⟩ := (hShort.succeeds ending).mp ⟨c, hReturned⟩
    obtain rfl := Option.some.inj (hCard.symm.trans hOld)
    exact absurd hEnough (by decide)

end CardLedger
