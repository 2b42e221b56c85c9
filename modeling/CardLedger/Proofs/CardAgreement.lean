import CardLedger.Proofs.AuditTrail
import CardLedger.Proofs.Interleaving
import CardLedger.Proofs.Marks
import CardLedger.Proofs.TenantView

/-!
# What a purchase sees of the store

A purchase reads one card, the transactions of that card, and the controls. Two stores that agree on these,
marks aside, tell it the same, and they agree on them still after it has been made in both. A purchase with
another card leaves them as they are.
-/

namespace CardLedger

/-- A purchase with the marks of its record taken off. -/
def AuthorizedPurchase.unmarked (p : AuthorizedPurchase) : AuthorizedPurchase :=
  { p with transaction := p.transaction.unmarked }

/-- Two stores agree on a card if it is the same card but for stamps, with the same record but for marks,
and if the controls are the same. -/
structure Store.AgreeOnCard (s other : Store) (id : Uuid) : Prop where
  card : (s.card? id).map Card.untimed = (other.card? id).map Card.untimed
  record : (s.transactionsOfCard id).map Transaction.unmarked =
    (other.transactionsOfCard id).map Transaction.unmarked
  controls : s.controls = other.controls

theorem Card.id_of_untimed {c d : Card} (hCard : c.untimed = d.untimed) : c.id = d.id :=
  (congrArg Card.id hCard :)

variable {s t third next other : Store} {a b : Ambient} {id company : Uuid} {c d : Card}

namespace Store

theorem AgreeOnCard.refl (s : Store) (id : Uuid) : s.AgreeOnCard s id :=
  ⟨rfl, rfl, rfl⟩

theorem AgreeOnCard.symm (hAgree : s.AgreeOnCard t id) : t.AgreeOnCard s id :=
  ⟨hAgree.card.symm, hAgree.record.symm, hAgree.controls.symm⟩

theorem AgreeOnCard.trans (hFirst : s.AgreeOnCard t id) (hSecond : t.AgreeOnCard third id) :
    s.AgreeOnCard third id :=
  ⟨hFirst.card.trans hSecond.card, hFirst.record.trans hSecond.record,
    hFirst.controls.trans hSecond.controls⟩

/-! ## What the stages read -/

theorem cardOf?_eq_filter (hKeyed : s.CardsKeyed) :
    s.cardOf? company id = (s.card? id).filter (·.companyId == company) := by
  cases hCard : s.card? id with
  | none =>
      refine List.find?_eq_none.mpr fun c hMem hFits => ?_
      obtain ⟨hId, -⟩ := Bool.and_eq_true_iff.mp hFits
      exact card?_eq_none_iff.mp hCard c hMem (beq_iff_eq.mp hId)
  | some c =>
      obtain ⟨hMem, hId⟩ := mem_of_card? hCard
      cases hFound : s.cardOf? company id with
      | none =>
          have hNot := List.find?_eq_none.mp hFound c hMem
          rw [hId, beq_self_eq_true, Bool.true_and] at hNot
          rw [Option.filter_some, if_neg hNot]
      | some d =>
          obtain ⟨hOther, hOtherId, hCompany⟩ := cardOf?_eq_some hFound
          obtain rfl := eq_of_keyed hKeyed hMem hOther (hId.trans hOtherId.symm)
          rw [Option.filter_some, if_pos (beq_iff_eq.mpr hCompany)]

/-- A company gets the same card from two stores that agree on it, or none from either. -/
theorem AgreeOnCard.cardOf? (hAgree : s.AgreeOnCard t id) (hKeyed : s.CardsKeyed) (hOther : t.CardsKeyed) :
    (s.cardOf? company id).map Card.untimed = (t.cardOf? company id).map Card.untimed := by
  have hUntimed : ∀ found : Option Card, (found.filter (·.companyId == company)).map Card.untimed =
      (found.map Card.untimed).filter (·.companyId == company) := by
    intro found
    rw [Option.filter_map]
    rfl
  rw [cardOf?_eq_filter hKeyed, cardOf?_eq_filter hOther, hUntimed, hUntimed, hAgree.card]

/-- What a card has spent is told by its own record without marks. -/
theorem spentIn_eq_unmarked (w : Window) : s.spentIn id w =
    (let total := Number.sum ((((s.transactionsOfCard id).map Transaction.unmarked).filter
      (·.countsIn id w)).map (·.amount))
    if total.isNaN then 0 else total) := by
  have hOwn : (s.transactionsOfCard id).filter (·.countsIn id w) = s.transactions.filter (·.countsIn id w) := by
    refine filter_filter_of_imp fun t _ hCounts => ?_
    simp only [Transaction.countsIn, Bool.and_eq_true] at hCounts
    exact hCounts.1.1.1.1
  have hAmounts :
      (((s.transactionsOfCard id).map Transaction.unmarked).filter (·.countsIn id w)).map (·.amount) =
        (s.transactions.filter (·.countsIn id w)).map (·.amount) := by
    rw [List.filter_map, List.map_map, ← hOwn]
    rfl
  unfold spentIn
  rw [hAmounts]

theorem AgreeOnCard.spentIn (hAgree : s.AgreeOnCard t id) (w : Window) : s.spentIn id w = t.spentIn id w := by
  rw [spentIn_eq_unmarked, spentIn_eq_unmarked, hAgree.record]

theorem AgreeOnCard.spentDuring (hAgree : s.AgreeOnCard t id) (window : Except WindowFault Window) :
    s.spentDuring id window = t.spentDuring id window := by
  unfold Store.spentDuring
  simp only [hAgree.spentIn]

theorem AgreeOnCard.activeControlValues (hAgree : s.AgreeOnCard t id) (card : Uuid) :
    s.activeControlValues card = t.activeControlValues card := by
  unfold Store.activeControlValues activeControls
  rw [hAgree.controls]

end Store

/-! ## The stages before the commit -/

namespace Authorizer

variable {z : Authorizer} {r : PurchaseRequest} {now : Instant} {advisories : List Advisory}

/-- The stages that read the store, once the card is found. -/
def assess (z : Authorizer) (s : Store) (c : Card) (r : PurchaseRequest) (now : Instant) :
    Except Error (List Advisory) := do
  let advisories ← z.checkUsable c now
  liftFault .denied (checkSufficient c r.amount)
  z.checkPeriods s c r.amount now
  z.checkPolicy s c r.merchantCategory now
  return advisories

theorem screen_eq_assess : z.screen s company r now =
    s.getCard company r.card >>= fun c => (z.assess s c r now).map fun advisories => (c, advisories) := by
  unfold screen assess
  refine bind_congr fun c => ?_
  cases z.checkUsable c now with
  | error e => rfl
  | ok advisories =>
      cases liftFault .denied (checkSufficient c r.amount) with
      | error e => rfl
      | ok u =>
          cases z.checkPeriods s c r.amount now with
          | error e => rfl
          | ok u =>
              cases z.checkPolicy s c r.merchantCategory now with
              | error e => rfl
              | ok u => rfl

/-- The stages assess a card in the same way in two stores that agree on it. -/
theorem assess_alike (hAgree : s.AgreeOnCard t c.id) (hCard : c.untimed = d.untimed) :
    z.assess s c r now = z.assess t d r now := by
  have hId := Card.id_of_untimed hCard
  have hUsable : z.checkUsable c now = z.checkUsable d now :=
    (congrArg (fun e => z.checkUsable e now) hCard :)
  have hSufficient : checkSufficient c r.amount = checkSufficient d r.amount :=
    (congrArg (fun e => checkSufficient e r.amount) hCard :)
  have hPeriods : z.checkPeriods s c r.amount now = z.checkPeriods t d r.amount now := by
    have hDaily : c.dailyLimit = d.dailyLimit := (congrArg Card.dailyLimit hCard :)
    have hMonthly : c.monthlyLimit = d.monthlyLimit := (congrArg Card.monthlyLimit hCard :)
    unfold checkPeriods Store.spentToday Store.spentThisMonth
    rw [hAgree.spentDuring, hAgree.spentDuring, hId, hDaily, hMonthly]
  have hPolicy : z.checkPolicy s c r.merchantCategory now = z.checkPolicy t d r.merchantCategory now := by
    unfold checkPolicy
    rw [hAgree.activeControlValues, hId]
  unfold assess
  rw [hUsable, hSufficient, hPeriods, hPolicy]

end Authorizer

/-! ## The commit -/

/-- Two outcomes of a purchase with a card that tell the same, and leave stores that agree on the card. -/
inductive AlikeOn (id : Uuid) :
    Except Error (AuthorizedPurchase × Store) → Except Error (AuthorizedPurchase × Store) → Prop
  | failed (e : Error) : AlikeOn id (.error e) (.error e)
  | done {p q : AuthorizedPurchase} {next other : Store} (hTold : p.unmarked = q.unmarked)
      (hAgree : next.AgreeOnCard other id) : AlikeOn id (.ok (p, next)) (.ok (q, other))

variable {z : Authorizer} {r : PurchaseRequest} {now : Instant} {advisories : List Advisory}

theorem row_unmarked (hCard : c.untimed = d.untimed) :
    (r.row c a now).unmarked = (r.row d b now).unmarked :=
  (congrArg (fun e => (r.row e a now).unmarked) hCard :)

theorem Store.transactionsOfCard_withPurchase :
    (s.withPurchase a c r now).transactionsOfCard c.id = s.transactionsOfCard c.id ++ [r.row c a now] := by
  have hOwn : ((r.row c a now).cardId == c.id) = true := beq_self_eq_true c.id
  unfold Store.transactionsOfCard
  rw [Store.withPurchase_transactions, List.filter_append, List.filter_singleton, hOwn]
  rfl

/-- A purchase made in two stores that agree on its card leaves them so. -/
theorem Store.AgreeOnCard.withPurchase (hAgree : s.AgreeOnCard t c.id) (hFound : s.card? c.id = some c)
    (hSame : t.card? d.id = some d) (hCard : c.untimed = d.untimed) :
    (s.withPurchase a c r now).AgreeOnCard (t.withPurchase b d r now) c.id where
  card := by
    have hId := Card.id_of_untimed hCard
    have hDebited : (c.debited r.amount a.now).untimed = (d.debited r.amount b.now).untimed :=
      (congrArg (fun e : Card => (e.debited r.amount .epoch).untimed) hCard :)
    rw [Store.card?_withPurchase_self hFound, hId, Store.card?_withPurchase_self hSame]
    exact congrArg some hDebited
  record := by
    have hId := Card.id_of_untimed hCard
    have hRecord := hAgree.record
    rw [Store.transactionsOfCard_withPurchase, hId, Store.transactionsOfCard_withPurchase, List.map_append,
      List.map_append, ← hId, hRecord, List.map_singleton, List.map_singleton, row_unmarked hCard]
  controls := hAgree.controls

theorem Authorizer.snapshot_alike (hAgree : s.AgreeOnCard t c.id) (hCard : c.untimed = d.untimed) :
    z.snapshot s c.id c now = z.snapshot t d.id d now := by
  have hId := Card.id_of_untimed hCard
  have hDaily : c.dailyLimit = d.dailyLimit := (congrArg Card.dailyLimit hCard :)
  have hMonthly : c.monthlyLimit = d.monthlyLimit := (congrArg Card.monthlyLimit hCard :)
  unfold Authorizer.snapshot Store.spentToday Store.spentThisMonth
  rw [hAgree.spentDuring, hAgree.spentDuring, hId, hDaily, hMonthly]

/-- The commit does the same in two stores that agree on the card. -/
theorem Authorizer.commit_alike (hKeyed : s.CardsKeyed) (hOther : t.CardsKeyed) (hAgree : s.AgreeOnCard t c.id)
    (hFound : s.card? c.id = some c) (hSame : t.card? d.id = some d) (hCard : c.untimed = d.untimed)
    (hAmount : isAmount r.amount = true) (ha : a.interference = {}) (hb : b.interference = {})
    (hFresh : s.IsFresh (a.freshId 0)) (hFresh' : t.IsFresh (b.freshId 0)) :
    AlikeOn c.id (z.commit s a c r now advisories) (z.commit t b d r now advisories) := by
  have hId := Card.id_of_untimed hCard
  have hBalance : c.balance = d.balance := (congrArg Card.balance hCard :)
  have hHeld : s.overwriteBalance a.interference c.id = .ok s := Store.overwriteBalance_of_alone (by rw [ha])
  have hHeld' : t.overwriteBalance b.interference d.id = .ok t := Store.overwriteBalance_of_alone (by rw [hb])
  have hIsSome : (s.card? c.id).isSome := by rw [hFound]; rfl
  have hIsSome' : (t.card? d.id).isSome := by rw [hSame]; rfl
  by_cases hCovered : r.amount ≤ c.balance
  · have hNext : (s.withPurchase a c r now).AgreeOnCard (t.withPurchase b d r now) c.id :=
      hAgree.withPurchase hFound hSame hCard
    have hSnapshot : z.snapshot (s.withPurchase a c r now) c.id c now =
        z.snapshot (t.withPurchase b d r now) d.id d now :=
      Authorizer.snapshot_alike hNext hCard
    rw [Authorizer.commit_of_covered hKeyed hAmount hFresh hIsSome hHeld hFound hCovered (by rw [ha]),
      Authorizer.commit_of_covered hOther hAmount hFresh' hIsSome' hHeld' hSame (hBalance ▸ hCovered)
        (by rw [hb]), hSnapshot]
    cases z.snapshot (t.withPurchase b d r now) d.id d now with
    | error e => exact .failed e
    | ok spend =>
        have hTold : (Authorizer.receipt a c c r now spend advisories).unmarked =
            (Authorizer.receipt b d d r now spend advisories).unmarked :=
          (congrArg (fun e => (Authorizer.receipt a e e r now spend advisories).unmarked) hCard :)
        exact .done hTold hNext
  · rw [Authorizer.commit_of_short hKeyed hAmount hFresh hIsSome hHeld hFound (.inl hCovered),
      Authorizer.commit_of_short hOther hAmount hFresh' hIsSome' hHeld' hSame (.inl (hBalance ▸ hCovered)),
      hId, hBalance]
    exact .failed _

/-! ## The whole purchase -/

/-- A purchase is told the same by two stores that agree on its card, and leaves them agreeing. -/
theorem Authorizer.authorize_alike (hKeyed : s.CardsKeyed) (hOther : t.CardsKeyed)
    (hAgree : s.AgreeOnCard t r.card) (ha : a.interference = {}) (hb : b.interference = {})
    (hFresh : s.IsFresh (a.freshId 0)) (hFresh' : t.IsFresh (b.freshId 0)) :
    AlikeOn r.card (z.authorize s a company r now) (z.authorize t b company r now) := by
  unfold Authorizer.authorize
  cases hCheck : r.check company with
  | error e => exact .failed e
  | ok u =>
      rw [ok_bind, ok_bind, ha, hb]
      by_cases hTime : z.timeoutMs = 0
      · rw [if_pos (.inr hTime), if_pos (.inr hTime)]
        exact .failed _
      · have hHeard : ¬ (({} : Interference).storeSilent = true ∨ z.timeoutMs = 0) := by simpa using hTime
        rw [if_neg hHeard, if_neg hHeard, Authorizer.screen_eq_assess, Authorizer.screen_eq_assess]
        have hFound : (s.cardOf? company r.card).map Card.untimed =
            (t.cardOf? company r.card).map Card.untimed :=
          hAgree.cardOf? hKeyed hOther
        unfold Store.getCard
        rcases option_map_cases hFound with ⟨hNone, hNone'⟩ | ⟨c, d, hCard, hSame, hUntimed⟩
        · rw [hNone, hNone']
          exact .failed _
        · obtain ⟨hMem, hId, -⟩ := Store.cardOf?_eq_some hCard
          obtain ⟨hOtherMem, -, -⟩ := Store.cardOf?_eq_some hSame
          rw [hCard, hSame]
          rw [← hId] at hAgree ⊢
          change AlikeOn c.id
            ((z.assess s c r now).map (fun advisories => (c, advisories)) >>= fun found =>
              z.commit s a found.1 r now found.2)
            ((z.assess t d r now).map (fun advisories => (d, advisories)) >>= fun found =>
              z.commit t b found.1 r now found.2)
          rw [Authorizer.assess_alike hAgree hUntimed]
          cases z.assess t d r now with
          | error e => exact .failed e
          | ok advisories =>
              exact Authorizer.commit_alike hKeyed hOther hAgree
                ((Store.card?_eq_some_iff hKeyed).mpr ⟨hMem, rfl⟩)
                ((Store.card?_eq_some_iff hOther).mpr ⟨hOtherMem, rfl⟩) hUntimed
                (PurchaseRequest.isAmount_of_check hCheck) ha hb hFresh hFresh'

/-- A purchase leaves other cards as they are. -/
theorem Store.agreeOnCard_withPurchase (hOther : c.id ≠ id) : s.AgreeOnCard (s.withPurchase a c r now) id where
  card := by
    have hCard : (s.withPurchase a c r now).card? id = s.card? id := by
      change (s.modifyCard c.id (·.debited r.amount a.now)).card? id = s.card? id
      rw [Store.card?_modifyCard fun d => d.debited_id r.amount a.now]
      cases hFound : s.card? id with
      | none => rfl
      | some d =>
          obtain ⟨-, hId⟩ := Store.mem_of_card? hFound
          rw [Option.map_some, if_neg fun hSame => hOther (hSame.symm.trans hId)]
    rw [hCard]
  record := by
    have hNot : ((r.row c a now).cardId == id) = false := beq_eq_false_iff_ne.mpr hOther
    unfold Store.transactionsOfCard
    rw [Store.withPurchase_transactions, List.filter_append, List.filter_singleton, hNot]
    exact congrArg _ (List.append_nil _).symm
  controls := rfl

end CardLedger
