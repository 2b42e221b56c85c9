import CardLedger.Proofs.Workflow

/-!
# Reconciliation of balances with the record

After every run of the workflow the two tables that tell of money agree. The balance of a card is
what its transactions come to when they are booked one after the other onto nothing, in the
arithmetic of the store itself; no transaction is left pending, and no balance is negative.

The invariant also says that each transaction belongs to a card that is there. Without it a new card
could be issued under an identifier that old transactions already bear, and its empty balance would
not be what they come to.
-/

namespace CardLedger

namespace Store

variable {s next : Store} {card : Uuid} {t : Transaction}

/-- What the record says of the balance of a card: its transactions in the order of their
insertion, booked onto nothing. -/
def recordedBalance (s : Store) (card : Uuid) : Float :=
  (s.transactionsOfCard card).foldl (fun balance t => t.balanceAfter balance) 0

theorem recordedBalance_congr (hRecord : next.transactions = s.transactions) :
    next.recordedBalance card = s.recordedBalance card := by
  unfold recordedBalance transactionsOfCard
  rw [hRecord]

theorem recordedBalance_of_append (hRecord : next.transactions = s.transactions ++ [t]) :
    next.recordedBalance card =
      if t.cardId = card then t.balanceAfter (s.recordedBalance card)
      else s.recordedBalance card := by
  unfold recordedBalance transactionsOfCard
  rw [hRecord, List.filter_append]
  by_cases hCard : t.cardId = card
  · rw [if_pos hCard]
    simp [hCard]
  · rw [if_neg hCard]
    simp [hCard]

theorem recordedBalance_of_unused (hUnused : ∀ t ∈ s.transactions, t.cardId ≠ card) :
    s.recordedBalance card = 0 := by
  have hNone : s.transactionsOfCard card = [] := by
    unfold transactionsOfCard
    simpa using hUnused
  unfold recordedBalance
  rw [hNone]
  rfl

end Store

/-- The tables agree about money. -/
structure Reconciled (s : Store) : Prop where
  keyed : s.CardsKeyed
  owned : ∀ t ∈ s.transactions, ∃ c ∈ s.cards, c.id = t.cardId
  settled : ∀ t ∈ s.transactions, t.Settled
  balanced : ∀ c ∈ s.cards, c.balance = s.recordedBalance c.id
  nonneg : ∀ c ∈ s.cards, 0 ≤ c.balance

namespace Reconciled

variable {s next : Store}

theorem empty : Reconciled {} where
  keyed := List.nodup_nil
  owned := by simp
  settled := by simp
  balanced := by simp
  nonneg := by simp

/-- Rows may be added and cards be changed in place as long as the balances still tell the record. -/
theorem modified (hState : Reconciled s) (rows : List Transaction)
    (hIds : next.cards.map (·.id) = s.cards.map (·.id))
    (hRecord : next.transactions = s.transactions ++ rows)
    (hOwned : ∀ t ∈ rows, t.cardId ∈ s.cards.map (·.id)) (hSettled : ∀ t ∈ rows, t.Settled)
    (hBalances : ∀ c ∈ next.cards, c.balance = next.recordedBalance c.id ∧ 0 ≤ c.balance) :
    Reconciled next where
  keyed := (Store.cardsKeyed_of_ids hIds).mpr hState.keyed
  owned := by
    intro t ht
    have hMem : t.cardId ∈ next.cards.map (·.id) := by
      rw [hIds]
      rw [hRecord, List.mem_append] at ht
      rcases ht with hOld | hNew
      · obtain ⟨c, hc, hOwner⟩ := hState.owned t hOld
        rw [← hOwner]
        exact List.mem_map_of_mem hc
      · exact hOwned t hNew
    simpa using hMem
  settled := by
    intro t ht
    rw [hRecord, List.mem_append] at ht
    exact ht.elim (hState.settled t) (hSettled t)
  balanced := fun c hc => (hBalances c hc).1
  nonneg := fun c hc => (hBalances c hc).2

theorem kept (hState : Reconciled s) (hCards : next.cards = s.cards)
    (hRecord : next.transactions = s.transactions) : Reconciled next := by
  refine hState.modified [] (by rw [hCards]) (by simpa using hRecord) (by simp) (by simp) ?_
  rw [hCards]
  intro c hc
  rw [Store.recordedBalance_congr hRecord]
  exact ⟨hState.balanced c hc, hState.nonneg c hc⟩

/-- New cards are empty and nothing is recorded of them yet. -/
theorem issued (hState : Reconciled s) {new : List Card}
    (hEmpty : ∀ c ∈ new, c.balance = 0 ∧ c.ProperLimits)
    (hKeyed : next.CardsKeyed) (hCards : next.cards = s.cards ++ new)
    (hRecord : next.transactions = s.transactions) : Reconciled next where
  keyed := hKeyed
  owned := by
    intro t ht
    rw [hRecord] at ht
    obtain ⟨c, hc, hId⟩ := hState.owned t ht
    exact ⟨c, by simp [hCards, hc], hId⟩
  settled := by
    rw [hRecord]
    exact hState.settled
  balanced := by
    intro c hc
    rw [Store.recordedBalance_congr hRecord]
    rw [hCards, List.mem_append] at hc
    rcases hc with hOld | hNew
    · exact hState.balanced c hOld
    · rw [(hEmpty c hNew).1, Store.recordedBalance_of_unused]
      -- a transaction of the new card would belong to an old card of the same identifier
      intro t ht hCard
      obtain ⟨d, hd, hId⟩ := hState.owned t ht
      unfold Store.CardsKeyed at hKeyed
      rw [hCards, List.map_append, List.nodup_append] at hKeyed
      exact hKeyed.2.2 d.id (List.mem_map_of_mem hd) c.id (List.mem_map_of_mem hNew)
        (hId.trans hCard)
  nonneg := by
    intro c hc
    rw [hCards, List.mem_append] at hc
    rcases hc with hOld | hNew
    · exact hState.nonneg c hOld
    · rw [(hEmpty c hNew).1]
      decide

theorem revised (hState : Reconciled s) {id : Uuid} {change : Card → Card}
    (hRevision : Card.Revision change) (hCards : next.cards = (s.modifyCard id change).cards)
    (hRecord : next.transactions = s.transactions) : Reconciled next := by
  refine hState.modified [] ?_ (by simpa using hRecord) (by simp) (by simp) ?_
  · rw [hCards, Store.modifyCard_ids hRevision.id]
  · rw [hCards]
    refine Store.forall_modifyCard ?_ fun c hc => ?_
    · intro c hc
      rwa [hRevision.id, hRevision.balance]
    · rw [Store.recordedBalance_congr hRecord]
      exact ⟨hState.balanced c hc, hState.nonneg c hc⟩

/-- A transaction changes the balance of its card in the table and in the record alike. -/
theorem booked (hState : Reconciled s) {t : Transaction} (hBooking : Booking s next t) :
    Reconciled next := by
  refine hState.modified [t] hBooking.ids hBooking.record ?_ ?_ ?_
  · intro u hu
    rw [List.mem_singleton.mp hu]
    exact hBooking.owned
  · intro u hu
    rw [List.mem_singleton.mp hu]
    exact hBooking.settled
  · intro d hd
    refine ⟨?_, hBooking.nonneg hState.keyed hState.nonneg d hd⟩
    have hKeyed := (Store.cardsKeyed_of_ids hBooking.ids).mpr hState.keyed
    -- the old card of the same identifier told the record before
    have hBalance := hBooking.balance d.id
    rw [(Store.card?_eq_some_iff hKeyed).mpr ⟨hd, rfl⟩] at hBalance
    cases hOld : s.card? d.id with
    | none =>
        rw [hOld] at hBalance
        cases hBalance
    | some c =>
        obtain ⟨hc, hId⟩ := Store.mem_of_card? hOld
        rw [hOld, Option.map_some, Option.map_some, Option.some.injEq, hState.balanced c hc, hId]
          at hBalance
        rw [Store.recordedBalance_of_append hBooking.record, hBalance]

theorem step (hState : Reconciled s) (hChange : LedgerChange s next) : Reconciled next := by
  cases hChange with
  | kept hCards hRecord => exact hState.kept hCards hRecord
  | revised id change hRevision hCards hRecord => exact hState.revised hRevision hCards hRecord
  | issued new hEmpty hKeyed hCards hRecord => exact hState.issued hEmpty hKeyed hCards hRecord
  | booked t hBooking => exact hState.booked hBooking

theorem run (hState : Reconciled s) (calls : List Call) : Reconciled (s.run calls) := by
  refine Store.run_preserves ?_ hState calls
  intro old next call hOld hApply
  exact hOld.step (ledgerChange_of_apply hOld.keyed call.alone hApply)

end Reconciled

/-- After every run of the workflow from the empty store all transactions are completed, every
balance is what its card's transactions come to one after the other, and none is negative. -/
theorem balances_tell_record (calls : List Call) :
    (∀ t ∈ (Store.run {} calls).transactions, t.status = .completed ∧ t.processedAt.isSome) ∧
      ∀ c ∈ (Store.run {} calls).cards,
        c.balance =
            ((Store.run {} calls).transactions.filter fun t => t.cardId == c.id).foldl
              (fun balance t => match t.type with
                | .charge => balance + t.amount
                | .purchase => balance - t.amount) 0 ∧
          0 ≤ c.balance := by
  have hState := Reconciled.empty.run calls
  constructor
  · intro t ht
    have hSettled := hState.settled t ht
    exact ⟨hSettled.status, hSettled.processed⟩
  · intro c hc
    exact ⟨hState.balanced c hc, hState.nonneg c hc⟩

end CardLedger
