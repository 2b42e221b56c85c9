import CardLedger.Proofs.Purchase

/-!
# What money leaves alone

Which tables the movements of money reach. Unlike their exact effect this asks nothing of the store, not
even keys, and holds whatever others do to the balances meanwhile.
-/

namespace CardLedger

namespace Store

variable {s : Store} {a : Ambient} {company card : Uuid} {amount : Float}

theorem changeCards_frame {i : Interference} {fits : Card → Bool} {change : Card → Card} :
    (s.changeCards i fits change).1 = { s with cards := (s.changeCards i fits change).1.cards } := by
  unfold changeCards
  split
  · rfl
  · rfl

theorem debit_frame {result : Card × Store} (hDebit : s.debit a card amount = .ok result) :
    result.2 = { s with cards := result.2.cards } := by
  obtain ⟨_, -, hRest⟩ := bind_eq_ok_iff.mp hDebit
  cases hCard : s.card? card with
  | none =>
      rw [hCard] at hRest
      cases hRest
  | some read =>
      rw [hCard] at hRest
      obtain ⟨-, hRest⟩ := unless_eq_ok_iff.mp hRest
      obtain ⟨-, hRest⟩ := unless_eq_ok_iff.mp hRest
      split at hRest
      · cases hRest
        exact changeCards_frame
      · cases hRest

theorem credit_frame {result : Card × Store} (hCredit : s.credit a card amount = .ok result) :
    result.2 = { s with cards := result.2.cards } := by
  obtain ⟨_, -, hRest⟩ := bind_eq_ok_iff.mp hCredit
  obtain ⟨-, hRest⟩ := unless_eq_ok_iff.mp hRest
  split at hRest
  · cases hRest
    exact changeCards_frame
  · cases hRest

theorem createTransaction_frame {new : NewTransaction} {createdAt : Instant} {result : Transaction × Store}
    (hCreate : s.createTransaction a new createdAt = .ok result) :
    result.2 = { s with cards := result.2.cards, transactions := result.2.transactions } := by
  obtain ⟨-, -, -, held, hHeld, rfl⟩ := createTransaction_eq_ok_iff.mp hCreate
  -- others may have set a balance since, and nothing else
  obtain ⟨balance, rfl⟩ := overwriteBalance_eq_ok hHeld
  rfl

theorem fundCard_frame {result : Card × Store} (hFund : s.fundCard a company card amount = .ok result) :
    result.2 = { s with cards := result.2.cards, transactions := result.2.transactions } := by
  obtain ⟨_, -, hRest⟩ := bind_eq_ok_iff.mp hFund
  obtain ⟨_, -, hRest⟩ := bind_eq_ok_iff.mp hRest
  obtain ⟨written, hCreate, hRest⟩ := bind_eq_ok_iff.mp hRest
  obtain ⟨funded, hCredit, hResult⟩ := bind_eq_ok_iff.mp hRest
  cases hResult
  unfold updateStatus
  rw [credit_frame hCredit, createTransaction_frame hCreate]

end Store

theorem Authorizer.commit_frame {s : Store} {a : Ambient} {z : Authorizer} {c : Card}
    {r : PurchaseRequest} {now : Instant} {advisories : List Advisory} {result : AuthorizedPurchase × Store}
    (hCommit : z.commit s a c r now advisories = .ok result) :
    result.2 = { s with cards := result.2.cards, transactions := result.2.transactions } := by
  rw [commit_eq_readBack] at hCommit
  obtain ⟨written, hCreate, hRest⟩ := bind_eq_ok_iff.mp hCommit
  obtain ⟨lowered, hDebit, hRest⟩ := bind_eq_ok_iff.mp hRest
  obtain ⟨_, -, hResult⟩ := bind_eq_ok_iff.mp hRest
  cases hResult
  unfold Store.updateStatus
  rw [Store.debit_frame (liftFault_eq_ok_iff.mp hDebit), Store.createTransaction_frame hCreate]

end CardLedger
