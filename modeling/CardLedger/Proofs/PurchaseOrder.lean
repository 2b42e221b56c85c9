import CardLedger.Proofs.CardAgreement

/-!
# The order of purchases

Purchases made one after the other. What comes of those with one card is what would have come of them
alone, so purchases with different cards can change places: each is told the same, and the stores differ in
nothing but marks and the order of the transactions that were added.
-/

namespace CardLedger

/-- Make a purchase. -/
def Submission.attempt (p : Submission) (s : Store) (a : Ambient) :
    Except Error (AuthorizedPurchase × Store) :=
  p.authorizer.authorize s a p.company p.request p.now

/-- What a purchase is told, without marks. -/
def Submission.told (p : Submission) (s : Store) (a : Ambient) : Except Error AuthorizedPurchase :=
  (p.attempt s a).map (·.1.unmarked)

namespace Store

/-- The store after a purchase, which fails or goes through. -/
def afterPurchase (s : Store) (p : Submission × Ambient) : Store :=
  s.orLeft ((p.1.attempt s p.2).map (·.2))

/-- The store after purchases, one after the other. -/
def afterPurchases (s : Store) (purchases : List (Submission × Ambient)) : Store :=
  purchases.foldl afterPurchase s

/-- What purchases are told one after the other, each with its card. -/
def outcomes (s : Store) : List (Submission × Ambient) → List (Uuid × Except Error AuthorizedPurchase)
  | [] => []
  | p :: rest => (p.1.request.card, p.1.told s p.2) :: (s.afterPurchase p).outcomes rest

theorem outcomes_cons (s : Store) (p : Submission × Ambient) (rest : List (Submission × Ambient)) :
    s.outcomes (p :: rest) = (p.1.request.card, p.1.told s p.2) :: (s.afterPurchase p).outcomes rest := rfl

/-- Purchases that nobody interferes with, each with an identifier that is not in use. -/
structure Undisturbed (s : Store) (purchases : List (Submission × Ambient)) : Prop where
  alone : ∀ p ∈ purchases, p.2.interference = {}
  fresh : ∀ p ∈ purchases, s.IsFresh (p.2.freshId 0)
  distinct : (purchases.map (·.2.freshId 0)).Nodup

/-- Two stores that have come from one by the same purchases in different orders. -/
structure SameButOrder (start s other : Store) : Prop where
  companies : s.companies = other.companies
  queue : s.queue = other.queue
  controls : s.controls = other.controls
  cards : s.cards.map Card.untimed = other.cards.map Card.untimed
  record : ∃ added more, s.transactions = start.transactions ++ added ∧
    other.transactions = start.transactions ++ more ∧
    (added.map Transaction.unmarked).Perm (more.map Transaction.unmarked)

variable {s t u : Store} {id : Uuid} {p : Submission × Ambient}
variable {rest purchases others : List (Submission × Ambient)}

/-! ## One purchase -/

/-- What a purchase has done to the store, whether it failed or went through. -/
theorem afterPurchase_cases (hKeyed : s.CardsKeyed) (hAlone : p.2.interference = {}) :
    s.afterPurchase p = s ∨
      ∃ c, c.id = p.1.request.card ∧ s.afterPurchase p = s.withPurchase p.2 c p.1.request p.1.now := by
  unfold afterPurchase
  cases hAttempt : p.1.attempt s p.2 with
  | error e => exact .inl rfl
  | ok result =>
      obtain ⟨c, -, hCard, -, hStore⟩ := Authorizer.authorize_withPurchase hKeyed (by rw [hAlone]) hAttempt
      exact .inr ⟨c, (cardOf?_eq_some hCard).2.1, hStore⟩

/-- Nothing has been done to a store but purchases: balances are set, and transactions appended. -/
structure PurchasesOnly (s next : Store) : Prop where
  companies : next.companies = s.companies
  queue : next.queue = s.queue
  controls : next.controls = s.controls
  ids : next.cards.map (·.id) = s.cards.map (·.id)
  record : ∃ added, next.transactions = s.transactions ++ added

theorem PurchasesOnly.refl (s : Store) : s.PurchasesOnly s :=
  ⟨rfl, rfl, rfl, rfl, [], (List.append_nil _).symm⟩

theorem PurchasesOnly.trans (hFirst : s.PurchasesOnly t) (hSecond : t.PurchasesOnly u) : s.PurchasesOnly u where
  companies := hSecond.companies.trans hFirst.companies
  queue := hSecond.queue.trans hFirst.queue
  controls := hSecond.controls.trans hFirst.controls
  ids := hSecond.ids.trans hFirst.ids
  record := by
    obtain ⟨added, hAdded⟩ := hFirst.record
    obtain ⟨more, hMore⟩ := hSecond.record
    exact ⟨added ++ more, by rw [hMore, hAdded, List.append_assoc]⟩

theorem PurchasesOnly.cardsKeyed (hOnly : s.PurchasesOnly t) (hKeyed : s.CardsKeyed) : t.CardsKeyed :=
  (cardsKeyed_of_ids hOnly.ids).mpr hKeyed

theorem purchasesOnly_afterPurchase (hKeyed : s.CardsKeyed) (hAlone : p.2.interference = {}) :
    s.PurchasesOnly (s.afterPurchase p) := by
  rcases afterPurchase_cases hKeyed hAlone with hSame | ⟨c, -, hStore⟩
  · rw [hSame]
    exact .refl s
  · rw [hStore]
    exact ⟨rfl, rfl, rfl, modifyCard_ids fun _ => rfl, _, rfl⟩

theorem afterPurchase_others (hKeyed : s.CardsKeyed) (hAlone : p.2.interference = {})
    (hOther : p.1.request.card ≠ id) : s.AgreeOnCard (s.afterPurchase p) id := by
  rcases afterPurchase_cases hKeyed hAlone with hSame | ⟨c, hId, hStore⟩
  · rw [hSame]
    exact .refl s id
  · rw [hStore]
    exact agreeOnCard_withPurchase (hId ▸ hOther)

/-- A purchase in two stores that agree on its card: it is told the same, and they agree on the card still. -/
theorem afterPurchase_alike (q : Submission) {a b : Ambient} (hKeyed : s.CardsKeyed) (hOther : t.CardsKeyed)
    (hAgree : s.AgreeOnCard t q.request.card) (ha : a.interference = {}) (hb : b.interference = {})
    (hFresh : s.IsFresh (a.freshId 0)) (hFresh' : t.IsFresh (b.freshId 0)) :
    q.told s a = q.told t b ∧
      (s.afterPurchase (q, a)).AgreeOnCard (t.afterPurchase (q, b)) q.request.card := by
  have hAlike : AlikeOn q.request.card (q.attempt s a) (q.attempt t b) :=
    Authorizer.authorize_alike hKeyed hOther hAgree ha hb hFresh hFresh'
  unfold Submission.told afterPurchase
  dsimp only
  generalize q.attempt s a = first at hAlike ⊢
  generalize q.attempt t b = second at hAlike ⊢
  cases hAlike with
  | failed e => exact ⟨rfl, hAgree⟩
  | done hTold hNext => exact ⟨congrArg Except.ok hTold, hNext⟩

/-- What is appended to the record by a purchase has the identifier that was drawn. -/
theorem afterPurchase_record (hKeyed : s.CardsKeyed) (hAlone : p.2.interference = {}) :
    ∃ added, (s.afterPurchase p).transactions = s.transactions ++ added ∧
      ∀ t ∈ added, t.id = p.2.freshId 0 := by
  rcases afterPurchase_cases hKeyed hAlone with hSame | ⟨c, -, hStore⟩
  · exact ⟨[], by rw [hSame, List.append_nil], by simp⟩
  · exact ⟨_, by rw [hStore, withPurchase_transactions], by simp⟩

/-! ## Purchases one after the other -/

namespace Undisturbed

theorem tail (hRun : s.Undisturbed (p :: rest)) (hKeyed : s.CardsKeyed) :
    (s.afterPurchase p).Undisturbed rest where
  alone := (List.forall_mem_cons.mp hRun.alone).2
  fresh := by
    intro q hMem t ht hId
    obtain ⟨added, hRecord, hAdded⟩ := afterPurchase_record hKeyed (hRun.alone p List.mem_cons_self)
    rw [hRecord] at ht
    rcases List.mem_append.mp ht with hOld | hNew
    · exact hRun.fresh q (List.mem_cons_of_mem p hMem) t hOld hId
    · -- the identifier of this purchase is not drawn again
      obtain ⟨hNotIn, -⟩ := List.nodup_cons.mp hRun.distinct
      have hDrawn : p.2.freshId 0 = q.2.freshId 0 := (hAdded t hNew).symm.trans hId
      exact hNotIn (List.mem_map.mpr ⟨q, hMem, hDrawn.symm⟩)
  distinct := (List.nodup_cons.mp hRun.distinct).2

theorem filter (hRun : s.Undisturbed purchases) (keep : Submission × Ambient → Bool) :
    s.Undisturbed (purchases.filter keep) where
  alone := fun q hMem => hRun.alone q (List.mem_of_mem_filter hMem)
  fresh := fun q hMem => hRun.fresh q (List.mem_of_mem_filter hMem)
  distinct := hRun.distinct.sublist (List.filter_sublist.map _)

end Undisturbed

/-- What purchases with a card are told, and what becomes of it, is told by these purchases alone. -/
theorem outcomes_of_card (id : Uuid) (hKeyed : s.CardsKeyed) (hOther : t.CardsKeyed)
    (hAgree : s.AgreeOnCard t id) (hRun : s.Undisturbed purchases) (hOwnRun : t.Undisturbed others)
    (hOwn : others.map Prod.fst = (purchases.map Prod.fst).filter (·.request.card == id)) :
    (s.outcomes purchases).filter (·.1 == id) = t.outcomes others ∧
      (s.afterPurchases purchases).AgreeOnCard (t.afterPurchases others) id := by
  induction purchases generalizing s t others with
  | nil =>
      obtain rfl : others = [] := List.map_eq_nil_iff.mp hOwn
      exact ⟨rfl, hAgree⟩
  | cons p rest ih =>
      have hAlone : p.2.interference = {} := hRun.alone p List.mem_cons_self
      by_cases hCard : p.1.request.card = id
      · have hTake : ((p :: rest).map Prod.fst).filter (·.request.card == id) =
            p.1 :: (rest.map Prod.fst).filter (·.request.card == id) := by
          rw [List.map_cons, List.filter_cons_of_pos (by simpa using hCard)]
        rw [hTake] at hOwn
        obtain ⟨q, later, rfl, hSame, hLaterOwn⟩ := List.map_eq_cons_iff.mp hOwn
        obtain ⟨q, b⟩ := q
        obtain rfl : q = p.1 := hSame
        have hAlone' : b.interference = {} := hOwnRun.alone _ List.mem_cons_self
        rw [← hCard] at hAgree
        obtain ⟨hTold, hNext⟩ := afterPurchase_alike p.1 hKeyed hOther hAgree hAlone hAlone'
          (hRun.fresh p List.mem_cons_self) (hOwnRun.fresh _ List.mem_cons_self)
        rw [hCard] at hNext
        obtain ⟨hRest, hLater⟩ := ih ((purchasesOnly_afterPurchase hKeyed hAlone).cardsKeyed hKeyed)
          ((purchasesOnly_afterPurchase hOther hAlone').cardsKeyed hOther) hNext (hRun.tail hKeyed)
          (hOwnRun.tail hOther) hLaterOwn
        refine ⟨?_, hLater⟩
        rw [outcomes_cons, outcomes_cons, List.filter_cons_of_pos (by simpa using hCard), hRest, hTold]
      · have hSkip : ((p :: rest).map Prod.fst).filter (·.request.card == id) =
            (rest.map Prod.fst).filter (·.request.card == id) := by
          rw [List.map_cons, List.filter_cons_of_neg (by simpa using hCard)]
        rw [hSkip] at hOwn
        have hNext := (afterPurchase_others hKeyed hAlone hCard).symm.trans hAgree
        obtain ⟨hTold, hLater⟩ := ih ((purchasesOnly_afterPurchase hKeyed hAlone).cardsKeyed hKeyed) hOther
          hNext (hRun.tail hKeyed) hOwnRun hOwn
        refine ⟨?_, hLater⟩
        rw [outcomes_cons, List.filter_cons_of_neg (by simpa using hCard)]
        exact hTold

theorem purchasesOnly_afterPurchases (hKeyed : s.CardsKeyed) (hRun : s.Undisturbed purchases) :
    s.PurchasesOnly (s.afterPurchases purchases) := by
  induction purchases generalizing s with
  | nil => exact .refl s
  | cons p rest ih =>
      have hOnly := purchasesOnly_afterPurchase hKeyed (hRun.alone p List.mem_cons_self)
      exact hOnly.trans (ih (hOnly.cardsKeyed hKeyed) (hRun.tail hKeyed))

/-! ## Stores that agree on all cards -/

/-- Cards under a key are told by what is found under each identifier. -/
theorem cards_eq_of_card? {α : Type} {f : Card → α} (hKeyed : s.CardsKeyed) (hOther : t.CardsKeyed)
    (hIds : s.cards.map (·.id) = t.cards.map (·.id))
    (hFound : ∀ id, (s.card? id).map f = (t.card? id).map f) : s.cards.map f = t.cards.map f := by
  have hLookup : ∀ {u : Store}, u.CardsKeyed →
      (u.cards.map f).map some = (u.cards.map (·.id)).map fun id => (u.card? id).map f := by
    intro u hKey
    rw [List.map_map, List.map_map]
    refine List.map_congr_left fun c hMem => ?_
    rw [Function.comp_apply, Function.comp_apply, (card?_eq_some_iff hKey).mpr ⟨hMem, rfl⟩]
    rfl
  refine List.map_injective_iff.mpr (Option.some_injective α) ?_
  rw [hLookup hKeyed, hLookup hOther, hIds]
  exact List.map_congr_left fun id _ => hFound id

/-- Transactions are a permutation of others if they are the same for each card, in order. -/
theorem perm_of_cards {rows others : List Transaction}
    (hCards : ∀ id, (rows.filter (·.cardId == id)) = others.filter (·.cardId == id)) : rows.Perm others := by
  rw [List.perm_iff_count]
  intro t
  have hOwn : (t.cardId == t.cardId) = true := beq_self_eq_true t.cardId
  have hCount : ∀ items : List Transaction, (items.filter (·.cardId == t.cardId)).count t = items.count t :=
    fun items => List.count_filter (p := fun u : Transaction => u.cardId == t.cardId) hOwn
  rw [← hCount rows, ← hCount others, hCards]

theorem sameButOrder_of_agree (hKeyed : s.CardsKeyed) (hFirst : s.PurchasesOnly t) (hSecond : s.PurchasesOnly u)
    (hAgree : ∀ id, t.AgreeOnCard u id) : s.SameButOrder t u where
  companies := hFirst.companies.trans hSecond.companies.symm
  queue := hFirst.queue.trans hSecond.queue.symm
  controls := hFirst.controls.trans hSecond.controls.symm
  cards := cards_eq_of_card? (hFirst.cardsKeyed hKeyed) (hSecond.cardsKeyed hKeyed)
    (hFirst.ids.trans hSecond.ids.symm) fun id => (hAgree id).card
  record := by
    obtain ⟨added, hAdded⟩ := hFirst.record
    obtain ⟨more, hMore⟩ := hSecond.record
    refine ⟨added, more, hAdded, hMore, perm_of_cards fun id => ?_⟩
    -- both records go on from the same one, so what was appended for the card is the same
    have hRecord := (hAgree id).record
    unfold transactionsOfCard at hRecord
    rw [hAdded, hMore, List.filter_append, List.filter_append, List.map_append, List.map_append] at hRecord
    have hSuffix := List.append_cancel_left hRecord
    rw [List.filter_map, List.filter_map]
    exact hSuffix

/-- Purchases in another order that leaves those of each card in theirs come to the same. -/
theorem sameOutcomes_of_order (hKeyed : s.CardsKeyed) (hRun : s.Undisturbed purchases)
    (hOther : s.Undisturbed others)
    (hOrder : ∀ id, (purchases.map Prod.fst).filter (·.request.card == id) =
      (others.map Prod.fst).filter (·.request.card == id)) :
    (∀ id, (s.outcomes purchases).filter (·.1 == id) = (s.outcomes others).filter (·.1 == id)) ∧
      s.SameButOrder (s.afterPurchases purchases) (s.afterPurchases others) := by
  -- for each card both runs are compared with its own purchases alone
  have hOwn : ∀ id, (others.filter (·.1.request.card == id)).map Prod.fst =
      (others.map Prod.fst).filter (·.request.card == id) := by
    intro id
    rw [List.filter_map]
    rfl
  have hFirst := fun id => outcomes_of_card id hKeyed hKeyed (.refl s id) hRun (hOther.filter _)
    ((hOwn id).trans (hOrder id).symm)
  have hSecond := fun id =>
    outcomes_of_card id hKeyed hKeyed (.refl s id) hOther (hOther.filter _) (hOwn id)
  refine ⟨fun id => (hFirst id).1.trans (hSecond id).1.symm, ?_⟩
  exact sameButOrder_of_agree hKeyed (purchasesOnly_afterPurchases hKeyed hRun)
    (purchasesOnly_afterPurchases hKeyed hOther) fun id => (hFirst id).2.trans (hSecond id).2.symm

end Store

variable {s : Store}

/-- **Purchases on different cards are independent of order.** Take a purchase with one card and a purchase
with another one, of any companies and at any instants. Whichever comes first, each is told the same: the
same error, or the same balance, snapshot and notes; and the stores left are the same but for marks and the
order of the two transactions. So it is with any purchases in any order that leaves the purchases of each
card in theirs. -/
theorem purchases_on_different_cards_commute (hKeyed : s.CardsKeyed) :
    (∀ (p q : Submission) (a a' b b' : Ambient), p.request.card ≠ q.request.card →
      s.Undisturbed [(p, a), (q, b)] → s.Undisturbed [(q, b'), (p, a')] →
      p.told s a = p.told (s.afterPurchase (q, b')) a' ∧
        q.told (s.afterPurchase (p, a)) b = q.told s b' ∧
        s.SameButOrder (s.afterPurchases [(p, a), (q, b)]) (s.afterPurchases [(q, b'), (p, a')])) ∧
    ∀ purchases others : List (Submission × Ambient), s.Undisturbed purchases → s.Undisturbed others →
      (∀ id, (purchases.map Prod.fst).filter (·.request.card == id) =
        (others.map Prod.fst).filter (·.request.card == id)) →
      (∀ id, (s.outcomes purchases).filter (·.1 == id) = (s.outcomes others).filter (·.1 == id)) ∧
        s.SameButOrder (s.afterPurchases purchases) (s.afterPurchases others) := by
  refine ⟨?_, fun purchases others hRun hOther => Store.sameOutcomes_of_order hKeyed hRun hOther⟩
  intro p q a a' b b' hCards hRun hOther
  have ha : a.interference = {} := hRun.alone (p, a) (by simp)
  have ha' : a'.interference = {} := hOther.alone (p, a') (by simp)
  have hb : b.interference = {} := hRun.alone (q, b) (by simp)
  have hb' : b'.interference = {} := hOther.alone (q, b') (by simp)
  have hFirst : s.AgreeOnCard (s.afterPurchase (q, b')) p.request.card :=
    Store.afterPurchase_others hKeyed hb' hCards.symm
  have hSecond : s.AgreeOnCard (s.afterPurchase (p, a)) q.request.card :=
    Store.afterPurchase_others hKeyed ha hCards
  have hFirstKeyed := (Store.purchasesOnly_afterPurchase (p := (q, b')) hKeyed hb').cardsKeyed hKeyed
  have hSecondKeyed := (Store.purchasesOnly_afterPurchase (p := (p, a)) hKeyed ha).cardsKeyed hKeyed
  refine ⟨?_, ?_, (Store.sameOutcomes_of_order hKeyed hRun hOther fun id => ?_).2⟩
  · exact (Store.afterPurchase_alike p hKeyed hFirstKeyed hFirst ha ha' (hRun.fresh (p, a) (by simp))
      ((hOther.tail hKeyed).fresh (p, a') (by simp))).1
  · exact (Store.afterPurchase_alike q hSecondKeyed hKeyed hSecond.symm hb hb'
      ((hRun.tail hKeyed).fresh (q, b) (by simp)) (hOther.fresh (q, b') (by simp))).1
  · -- no card has both purchases
    by_cases hp : p.request.card = id
    · have hq : q.request.card ≠ id := fun hq => hCards (hp.trans hq.symm)
      simp [hp, hq]
    · simp [hp, List.filter_cons]

namespace Sample

/-- Another card of the company, with less on it. -/
def secondCard : Card :=
  { card with id := .ofNat 4, balance := 40 }

/-- A store with two cards of one company. -/
def twoCards : Store :=
  { cards := [card, secondCard] }

/-- A purchase with a card. -/
def purchaseWith (card : Uuid) : Submission :=
  ⟨{}, company, { request with card }, .epoch⟩

theorem undisturbed_pair (p q : Submission) {i j : Nat}
    (hDistinct : (surroundings i).freshId 0 ≠ (surroundings j).freshId 0) :
    twoCards.Undisturbed [(p, surroundings i), (q, surroundings j)] where
  alone := by simp [surroundings]
  fresh := by simp [Store.IsFresh, twoCards]
  distinct := by simpa using hDistinct

end Sample

/-- Two purchases with the cards of one company, one way round and the other. -/
theorem purchases_on_different_cards_commute_of_two :
    let one := Sample.purchaseWith Sample.card.id
    let other := Sample.purchaseWith Sample.secondCard.id
    one.told Sample.twoCards (Sample.surroundings 1) =
        one.told (Sample.twoCards.afterPurchase (other, Sample.surroundings 3)) (Sample.surroundings 4) ∧
      Sample.twoCards.SameButOrder
        (Sample.twoCards.afterPurchases [(one, Sample.surroundings 1), (other, Sample.surroundings 2)])
        (Sample.twoCards.afterPurchases [(other, Sample.surroundings 3), (one, Sample.surroundings 4)]) ∧
      ((Sample.twoCards.afterPurchases
        [(one, Sample.surroundings 1), (other, Sample.surroundings 2)]).cards.map (·.balance)) = [70, 10] := by
  intro one other
  have hKeyed : Sample.twoCards.CardsKeyed := by
    unfold Store.CardsKeyed
    decide
  obtain ⟨hTold, -, hStores⟩ := (purchases_on_different_cards_commute hKeyed).1 one other
    (Sample.surroundings 1) (Sample.surroundings 4) (Sample.surroundings 2) (Sample.surroundings 3) (by decide)
    (Sample.undisturbed_pair one other (by decide)) (Sample.undisturbed_pair other one (by decide))
  exact ⟨hTold, hStores, by decide +kernel⟩

end CardLedger
