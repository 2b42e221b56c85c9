import CardLedger.Proofs.Purchase

/-!
# Bookings

Money moves in one way only: a completed transaction is added to the record, and the balance of its
card becomes what the transaction makes of it. Loading funds books a charge, and the commit of a
purchase books a purchase that the balance covers.
-/

namespace CardLedger

/-- The balance of a card once a transaction is booked on it. -/
def Transaction.balanceAfter (t : Transaction) (balance : Float) : Float :=
  match t.type with
  | .charge => balance + t.amount
  | .purchase => balance - t.amount

/-- A transaction that has been brought to its end. -/
structure Transaction.Settled (t : Transaction) : Prop where
  status : t.status = .completed
  processed : t.processedAt.isSome

/-- A transaction of a proper amount, which a balance covers if it takes money off. -/
structure Transaction.CoveredBy (t : Transaction) (balance : Float) : Prop where
  amount : isAmount t.amount = true
  covered : t.type = .purchase → t.amount ≤ balance

/-- A covered transaction does not make a balance negative. -/
theorem Transaction.CoveredBy.balanceAfter_nonneg {t : Transaction} {balance : Float}
    (hCovered : t.CoveredBy balance) (hNonneg : 0 ≤ balance) : 0 ≤ t.balanceAfter balance := by
  obtain ⟨hFinite, hPos⟩ := isAmount_iff.mp hCovered.amount
  unfold Transaction.balanceAfter
  cases hType : t.type with
  | charge => exact Binary64.add_nonneg hNonneg (Binary64.le_of_lt hPos)
  | purchase => exact Binary64.sub_nonneg hFinite (hCovered.covered hType)

/-- A change of a card by a transaction that is booked on it. -/
structure Books (t : Transaction) (change : Card → Card) : Prop where
  id : ∀ c, (change c).id = c.id
  balance : ∀ c, (change c).balance = t.balanceAfter c.balance
  limits : ∀ c, c.ProperLimits → (change c).ProperLimits

/-- The store with a transaction booked on its card. -/
structure Booking (s next : Store) (t : Transaction) : Prop where
  fresh : s.IsFresh t.id
  settled : t.Settled
  cards : ∃ c change, s.card? t.cardId = some c ∧ t.CoveredBy c.balance ∧ Books t change ∧
    next.cards = (s.modifyCard t.cardId change).cards
  record : next.transactions = s.transactions ++ [t]

variable {s next : Store} {a : Ambient} {t : Transaction}

namespace Booking

theorem ids (hBooking : Booking s next t) : next.cards.map (·.id) = s.cards.map (·.id) := by
  obtain ⟨c, change, -, -, hBooks, hCards⟩ := hBooking.cards
  rw [hCards, Store.modifyCard_ids hBooks.id]

theorem owned (hBooking : Booking s next t) : t.cardId ∈ s.cards.map (·.id) := by
  obtain ⟨c, _, hCard, -⟩ := hBooking.cards
  obtain ⟨hc, hId⟩ := Store.mem_of_card? hCard
  rw [← hId]
  exact List.mem_map_of_mem hc

theorem balance (hBooking : Booking s next t) (id : Uuid) :
    (next.card? id).map (·.balance) =
      (s.card? id).map fun c => if t.cardId = id then t.balanceAfter c.balance else c.balance := by
  obtain ⟨c, change, -, -, hBooks, hCards⟩ := hBooking.cards
  have hFind : next.card? id = (s.modifyCard t.cardId change).card? id := by
    unfold Store.card?
    rw [hCards]
  rw [hFind]
  exact Store.balance_modifyCard t.balanceAfter hBooks.id hBooks.balance

theorem nonneg (hBooking : Booking s next t) (hKeyed : s.CardsKeyed)
    (hNonneg : ∀ c ∈ s.cards, 0 ≤ c.balance) : ∀ c ∈ next.cards, 0 ≤ c.balance := by
  obtain ⟨c, change, hCard, hCovered, hBooks, hCards⟩ := hBooking.cards
  obtain ⟨hMem, hId⟩ := Store.mem_of_card? hCard
  intro d hd
  rw [hCards, Store.mem_modifyCard_cards] at hd
  obtain ⟨old, hOld, rfl⟩ := hd
  by_cases hOwner : old.id = t.cardId
  · -- the card that was found covered is the one that is changed
    have hSame : old = c := Store.eq_of_keyed hKeyed hOld hMem (hOwner.trans hId.symm)
    rw [if_pos hOwner, hBooks.balance, hSame]
    exact hCovered.balanceAfter_nonneg (hNonneg c hMem)
  · rw [if_neg hOwner]
    exact hNonneg old hOld

end Booking

/-- Loading funds books a charge. -/
theorem booking_of_fundCard {company card : Uuid} {amount : Float} {result : Card × Store}
    (hKeyed : s.CardsKeyed) (hAlone : a.interference.balanceAfterRecord = none)
    (hFund : s.fundCard a company card amount = .ok result) :
    Booking s result.2 ((Store.topUp company card amount).completed (a.freshId 0) a.now a.now) := by
  obtain ⟨hAmount, hFresh, held, c, hHeld, hCard, rfl⟩ := Store.fundCard_eq_ok hKeyed hFund
  rw [Store.overwriteBalance_of_alone hAlone] at hHeld
  cases hHeld
  exact
    { fresh := hFresh
      settled := ⟨rfl, rfl⟩
      cards := ⟨c, (·.credited amount a.now), hCard, ⟨hAmount, fun hType => by cases hType⟩,
        ⟨fun _ => rfl, fun _ => rfl, fun _ hLimits => ⟨hLimits.spending, hLimits.daily,
          hLimits.monthly⟩⟩, rfl⟩
      record := rfl }

/-- The commit of a purchase books it. -/
theorem booking_of_commit {z : Authorizer} {card : Card} {r : PurchaseRequest} {now : Instant}
    {advisories : List Advisory} {result : AuthorizedPurchase × Store} (hKeyed : s.CardsKeyed)
    (hAlone : a.interference.balanceAfterRecord = none)
    (hCommit : z.commit s a card r now advisories = .ok result) :
    Booking s result.2 (r.row card a now) := by
  obtain ⟨hAmount, hFresh, held, c, spend, hHeld, hCard, hCovered, -, rfl⟩ :=
    Authorizer.commit_eq_ok hKeyed hCommit
  rw [Store.overwriteBalance_of_alone hAlone] at hHeld
  cases hHeld
  exact
    { fresh := hFresh
      settled := ⟨rfl, rfl⟩
      cards := ⟨c, (·.debited r.amount a.now), hCard, ⟨hAmount, fun _ => hCovered⟩,
        ⟨fun _ => rfl, fun _ => rfl, fun _ hLimits => ⟨hLimits.spending, hLimits.daily,
          hLimits.monthly⟩⟩, rfl⟩
      record := rfl }

end CardLedger
