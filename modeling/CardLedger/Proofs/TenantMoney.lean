import CardLedger.Proofs.Purchase
import CardLedger.Proofs.TenantView

/-!
# Money in the part of a company

Operations on a company's card do to the company's part of the store what they do to the store: whether
the part is taken before or after makes no difference, neither to what is given back nor to what is left.
The parts of other companies stay as they are.
-/

namespace CardLedger

variable {α β : Type} {s next held : Store} {a : Ambient} {i : Interference}
  {company tenant card id record : Uuid} {change : Card → Card} {t : Transaction} {c : Card}
  {amount : Float}

/-- An outcome as a company sees it: what it gives, and the company's part of the store that it
leaves. -/
def seenBy (company : Uuid) (outcome : Except Error (α × Store)) : Except Error (α × Store) :=
  outcome.map fun result => (result.1, result.2.view company)

theorem seenBy_ok (value : α) : seenBy company (.ok (value, s)) = .ok (value, s.view company) := rfl

theorem seenBy_bind {x : Except Error (α × Store)} {f g : α × Store → Except Error (β × Store)}
    (hNext : ∀ value next, x = .ok (value, next) →
      g (value, next.view company) = seenBy company (f (value, next))) :
    (seenBy company x >>= g) = seenBy company (x >>= f) :=
  map_bind fun result hResult => hNext result.1 result.2 hResult

theorem Card.site_credited (amount : Float) (now : Instant) (c : Card) :
    (c.credited amount now).site = c.site := rfl

theorem Card.site_debited (amount : Float) (now : Instant) (c : Card) :
    (c.debited amount now).site = c.site := rfl

namespace Store

/-! ## Cards that are changed -/

theorem owns_modifyCard (hSite : ∀ c, (change c).site = c.site) :
    (s.modifyCard id change).owns company card = s.owns company card :=
  owns_congr (map_modifyCard hSite)

theorem id_of_site (hSite : ∀ c, (change c).site = c.site) (c : Card) : (change c).id = c.id :=
  congrArg Prod.fst (hSite c)

theorem view_modifyCard (hSite : ∀ c, (change c).site = c.site) :
    (s.modifyCard id change).view company = (s.view company).modifyCard id change := by
  have hCards : (s.modifyCard id change).cards.filter (fun c => c.companyId == company) =
      ((s.view company).modifyCard id change).cards := by
    -- the change leaves a card with its company, so the cards can be picked out before it
    rw [modifyCard_cards, modifyCard_cards, List.filter_map]
    refine congrArg _ (List.filter_congr fun c _ => ?_)
    have hCompany : (change c).companyId = c.companyId := congrArg Prod.snd (hSite c)
    by_cases hc : c.id = id
    · simp [hc, hCompany]
    · simp [hc]
  unfold view
  rw [hCards]
  simp only [owns_modifyCard hSite]
  rfl

theorem modifyCard_of_absent (hAbsent : ∀ c ∈ s.cards, c.id ≠ id) : s.modifyCard id change = s := by
  have hCards : (s.cards.map fun c => if c.id = id then change c else c) = s.cards := by
    refine (List.map_congr_left fun c hc => ?_).trans (List.map_id' s.cards)
    rw [if_neg (hAbsent c hc)]
  unfold modifyCard
  rw [hCards]

/-- A change of a company's card is none to other companies. -/
theorem agreeOn_modifyCard (hKeyed : s.CardsKeyed) (hOwned : s.owns company id = true)
    (hOther : tenant ≠ company) (hSite : ∀ c, (change c).site = c.site) :
    s.AgreeOn (s.modifyCard id change) tenant := by
  refine ⟨?_, rfl⟩
  rw [view_modifyCard hSite, modifyCard_of_absent]
  -- a card of this identifier in the part of the other company would be that company's too
  intro c hc hId
  obtain ⟨hMem, hTenant⟩ := List.mem_filter.mp hc
  have hNot := owns_other hKeyed hOwned hOther
  rw [owns_iff.mpr ⟨c, hMem, hId, beq_iff_eq.mp hTenant⟩] at hNot
  cases hNot

/-! ## Transactions that are added -/

theorem view_withTransaction (hOwned : s.owns company t.cardId = true) :
    (s.withTransaction t).view company = (s.view company).withTransaction t := by
  have hRows : (s.transactions ++ [t]).filter (fun t => s.owns company t.cardId) =
      s.transactions.filter (fun t => s.owns company t.cardId) ++ [t] := by
    rw [List.filter_append, List.filter_singleton, hOwned]
    rfl
  exact congrArg (fun rows => { s.view company with transactions := rows }) hRows

theorem agreeOn_withTransaction (hKeyed : s.CardsKeyed) (hOwned : s.owns company t.cardId = true)
    (hOther : tenant ≠ company) (hCompany : t.companyId = company) :
    s.AgreeOn (s.withTransaction t) tenant := by
  have hRows : (s.transactions ++ [t]).filter (fun t => s.owns tenant t.cardId) =
      s.transactions.filter fun t => s.owns tenant t.cardId := by
    rw [List.filter_append, List.filter_singleton, owns_other hKeyed hOwned hOther]
    exact List.append_nil _
  have hRecord : (s.withTransaction t).transactionsOfCompany tenant = s.transactionsOfCompany tenant := by
    unfold transactionsOfCompany
    rw [withTransaction_transactions, List.filter_append, List.filter_singleton, hCompany,
      beq_eq_false_iff_ne.mpr (Ne.symm hOther)]
    exact List.append_nil _
  exact ⟨(congrArg (fun rows => { s.view tenant with transactions := rows }) hRows).symm, hRecord.symm⟩

/-! ## A card and a record in the hands of a company -/

/-- A card of the company is the same row in the store and in the company's part of it. -/
theorem card?_of_owns (hKeyed : s.CardsKeyed) (hOwned : s.owns company card = true) :
    ∃ c, s.card? card = some c ∧ (s.view company).card? card = some c := by
  obtain ⟨c, hc, hId, -⟩ := owns_iff.mp hOwned
  have hCard := (card?_eq_some_iff hKeyed).mpr ⟨hc, hId⟩
  exact ⟨c, hCard, (card?_view hKeyed hOwned).trans hCard⟩

/-- A company holds a card under the primary key, and nobody else has a transaction of an identifier. -/
structure InHand (s : Store) (company card record : Uuid) : Prop where
  keyed : s.CardsKeyed
  owned : s.owns company card = true
  free : ∀ t ∈ s.transactions, t.id = record → s.owns company t.cardId = true

namespace InHand

theorem modifyCard (hHand : s.InHand company card record) (hSite : ∀ c, (change c).site = c.site) :
    (s.modifyCard id change).InHand company card record where
  keyed := (cardsKeyed_modifyCard (id_of_site hSite)).mpr hHand.keyed
  owned := (owns_modifyCard hSite).trans hHand.owned
  free := fun t ht hId => (owns_modifyCard hSite).trans (hHand.free t ht hId)

theorem withTransaction (hHand : s.InHand company card record) (hCard : t.cardId = card) :
    (s.withTransaction t).InHand company card record where
  keyed := hHand.keyed
  owned := hHand.owned
  free := by
    intro u hu hId
    rcases List.mem_append.mp hu with hOld | hNew
    · exact hHand.free u hOld hId
    · rw [List.mem_singleton.mp hNew, hCard]
      exact hHand.owned

theorem overwriteBalance (hHand : s.InHand company card record)
    (hHeld : s.overwriteBalance i id = .ok held) : held.InHand company card record := by
  obtain ⟨balance, rfl⟩ := overwriteBalance_eq_ok hHeld
  exact hHand.modifyCard fun _ => rfl

theorem createTransaction {new : NewTransaction} {createdAt : Instant} {row : Transaction}
    (hHand : s.InHand company card record) (hCard : new.cardId = card)
    (hCreate : s.createTransaction a new createdAt = .ok (row, next)) :
    next.InHand company card record := by
  obtain ⟨-, -, -, held, hHeld, hResult⟩ := createTransaction_eq_ok_iff.mp hCreate
  cases hResult
  exact (hHand.overwriteBalance hHeld).withTransaction hCard

theorem updateStatus {status : TransactionStatus} (hHand : s.InHand company card record) :
    (s.updateStatus a id status).InHand company card record where
  keyed := hHand.keyed
  owned := hHand.owned
  free := by
    intro u hu hId
    obtain ⟨t, ht, rfl⟩ := List.mem_map.mp hu
    by_cases hMoved : (t.id == id) = true
    · rw [if_pos hMoved] at hId ⊢
      exact hHand.free t ht hId
    · rw [if_neg hMoved] at hId ⊢
      exact hHand.free t ht hId

end InHand

/-! ## Operations on cards -/

theorem overwriteBalance_view :
    (s.view company).overwriteBalance i card = (s.overwriteBalance i card).map (·.view company) := by
  have hChange : ∀ (s : Store) (change : Card → Card), i.cardUpdatesLost = false →
      (s.changeCards i (fun c => c.id == card) change).1 = s.modifyCard card change := by
    intro s change hKept
    unfold changeCards modifyCard
    rw [if_neg (by simp [hKept])]
    simp
  unfold overwriteBalance
  cases i.balanceAfterRecord with
  | none => rfl
  | some balance =>
      dsimp only
      cases hLost : i.cardUpdatesLost with
      | true => rfl
      | false =>
          simp only [Bool.false_eq_true, if_false]
          rw [hChange _ _ hLost, hChange _ _ hLost]
          split
          · rfl
          · refine congrArg Except.ok (view_modifyCard ?_).symm
            exact fun _ => rfl

theorem createTransaction_view {new : NewTransaction} {createdAt : Instant}
    (hHand : s.InHand company new.cardId (a.freshId 0)) :
    (s.view company).createTransaction a new createdAt =
      seenBy company (s.createTransaction a new createdAt) := by
  -- whether the identifier is taken and whether the card is there is decided by rows of the company
  have hUsed : ((s.view company).transactions.any fun old => old.id == a.freshId 0) =
      s.transactions.any fun old => old.id == a.freshId 0 :=
    any_filter_of_imp fun t ht hId => hHand.free t ht (beq_iff_eq.mp hId)
  have hInsert : (s.view company).insertTransaction a.interference (new.record (a.freshId 0) createdAt) =
      (s.insertTransaction a.interference (new.record (a.freshId 0) createdAt)).map
        (·.view company) := by
    obtain ⟨c, hCard, hViewCard⟩ := card?_of_owns hHand.keyed hHand.owned
    unfold insertTransaction
    rw [NewTransaction.record_id, NewTransaction.record_cardId, hUsed, hCard, hViewCard]
    split
    · rfl
    · rw [if_neg (by simp), if_neg (by simp)]
      change ((s.view company).withTransaction _).overwriteBalance _ _ =
        ((s.withTransaction _).overwriteBalance _ _).map (·.view company)
      rw [← overwriteBalance_view, view_withTransaction hHand.owned]
  unfold createTransaction
  cases checkAmount new.amount with
  | error e => rfl
  | ok u =>
      rw [ok_bind, ok_bind]
      dsimp only
      rw [hInsert]
      cases s.insertTransaction a.interference (new.record (a.freshId 0) createdAt) with
      | error e => rfl
      | ok after => rfl

theorem credit_view (hKeyed : s.CardsKeyed) (hOwned : s.owns company card = true) :
    (s.view company).credit a card amount = seenBy company (s.credit a card amount) := by
  by_cases hAmount : isAmount amount = true
  · obtain ⟨c, hCard, hViewCard⟩ := card?_of_owns hKeyed hOwned
    cases hLost : a.interference.cardUpdatesLost with
    | true =>
        rw [credit_of_lost hAmount hLost, credit_of_lost hAmount hLost]
        rfl
    | false =>
        rw [credit_of_found hKeyed hAmount hCard hLost,
          credit_of_found (cardsKeyed_view hKeyed) hAmount hViewCard hLost, seenBy_ok,
          view_modifyCard (Card.site_credited amount a.now)]
  · unfold credit checkAmount
    rw [if_neg hAmount]
    rfl

theorem debit_view (hKeyed : s.CardsKeyed) (hOwned : s.owns company card = true) :
    (s.view company).debit a card amount = seenBy company (s.debit a card amount) := by
  by_cases hAmount : isAmount amount = true
  · obtain ⟨c, hCard, hViewCard⟩ := card?_of_owns hKeyed hOwned
    have hViewKeyed : (s.view company).CardsKeyed := cardsKeyed_view hKeyed
    by_cases hShort : ¬ amount ≤ c.balance ∨ a.interference.cardUpdatesLost = true
    · rw [debit_of_short hKeyed hAmount hCard hShort,
        debit_of_short hViewKeyed hAmount hViewCard hShort]
      rfl
    · obtain ⟨hCovered, hLost⟩ := not_or.mp hShort
      have hLe := not_not.mp hCovered
      have hKept := Bool.eq_false_of_not_eq_true hLost
      rw [debit_of_covered hKeyed hAmount hCard hLe hKept,
        debit_of_covered hViewKeyed hAmount hViewCard hLe hKept, seenBy_ok,
        view_modifyCard (Card.site_debited amount a.now)]
  · unfold debit checkAmount
    rw [if_neg hAmount]
    rfl

theorem updateStatus_view {status : TransactionStatus} :
    (s.updateStatus a id status).view company = (s.view company).updateStatus a id status := by
  have hRows : (s.updateStatus a id status).transactions.filter (fun t => s.owns company t.cardId) =
      ((s.view company).updateStatus a id status).transactions := by
    unfold updateStatus
    rw [List.filter_map]
    refine congrArg _ (List.filter_congr fun t _ => ?_)
    rw [Function.comp_apply]
    split
    · rfl
    · rfl
  exact congrArg (fun rows => { s.view company with transactions := rows }) hRows

theorem transaction?_view (hHand : s.InHand company card record) :
    (s.view company).transaction? record = s.transaction? record :=
  find?_filter_of_imp fun t ht hId => hHand.free t ht (beq_iff_eq.mp hId)

theorem changeCard_of_lost (hCard : s.card? id = some c) (hLost : i.cardUpdatesLost = true) :
    s.changeCard i id change = .error (.database "no card updated") := by
  unfold changeCard changeCards
  rw [if_pos hLost]
  dsimp only
  rw [hCard]
  rfl

theorem changeCard_of_found (hKeyed : s.CardsKeyed) (hId : ∀ c, (change c).id = c.id)
    (hCard : s.card? id = some c) (hKept : i.cardUpdatesLost = false) :
    s.changeCard i id change = .ok (change c, s.modifyCard id change) := by
  unfold changeCard
  rw [changeCards_of_key change hKeyed hCard hKept]
  dsimp only
  rw [card?_modifyCard_self change hId hCard]
  rfl

theorem changeCard_view (hKeyed : s.CardsKeyed) (hOwned : s.owns company card = true)
    (hSite : ∀ c, (change c).site = c.site) :
    (s.view company).changeCard i card change = seenBy company (s.changeCard i card change) := by
  obtain ⟨c, hCard, hViewCard⟩ := card?_of_owns hKeyed hOwned
  cases hLost : i.cardUpdatesLost with
  | true =>
      rw [changeCard_of_lost hCard hLost, changeCard_of_lost hViewCard hLost]
      rfl
  | false =>
      rw [changeCard_of_found hKeyed (id_of_site hSite) hCard hLost,
        changeCard_of_found (cardsKeyed_view hKeyed) (id_of_site hSite) hViewCard hLost, seenBy_ok,
        view_modifyCard hSite]

end Store

end CardLedger
