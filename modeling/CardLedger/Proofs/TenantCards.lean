import CardLedger.Proofs.Purchase
import CardLedger.Proofs.TenantMoney

/-!
# Cards in the part of a company

The operations of a company on its cards that are made of several steps: loading funds, settings, the
history, and purchases. Each of them looks the card up among the company's own first. What comes after
that knows the card by its identifier only, and is about the company's part of the store nevertheless.
-/

namespace CardLedger

variable {s next : Store} {a : Ambient} {company tenant card id record : Uuid} {change : Card → Card}
  {t : Transaction} {c : Card}

/-! ## Steps that come first -/

section

variable {α β : Type} {f g : β → Except Error (α × Store)}

theorem seenBy_check {x : Except Error β}
    (hNext : ∀ value, x = .ok value → g value = seenBy company (f value)) :
    (x >>= g) = seenBy company (x >>= f) := by
  cases x with
  | error e => rfl
  | ok value => exact hNext value rfl

theorem seenBy_unless {e : Error} {p : Prop} [Decidable p] {x y : Except Error (α × Store)}
    (hNext : y = seenBy company x) :
    (if p then .error e else y) = seenBy company (if p then .error e else x) := by
  split
  · rfl
  · exact hNext

/-- A card that is the company's is the same in the store and in the company's part of it. -/
theorem seenBy_getCard {f g : Card → Except Error (α × Store)}
    (hNext : ∀ c, s.cardOf? company card = some c → g c = seenBy company (f c)) :
    ((s.view company).getCard company card >>= g) = seenBy company (s.getCard company card >>= f) := by
  rw [Store.getCard_view]
  exact seenBy_check fun c hGet => hNext c (Store.getCard_eq_ok_iff.mp hGet)

theorem seenBy_liftFault {lift : Error → Error} {x : Except Error (α × Store)} :
    liftFault lift (seenBy company x) = seenBy company (liftFault lift x) := by
  cases x with
  | error e => rfl
  | ok result => rfl

end

namespace Store

theorem InHand.of_fresh (hKeyed : s.CardsKeyed) (hFresh : s.IsFresh record)
    (hCard : s.cardOf? company card = some c) : s.InHand company card record where
  keyed := hKeyed
  owned := owns_of_cardOf? hCard
  free := fun t ht hId => absurd hId (hFresh t ht)

/-! ## Funds and settings -/

theorem fundCard_view {amount : Float} (hKeyed : s.CardsKeyed) (hFresh : s.IsFresh (a.freshId 0)) :
    (s.view company).fundCard a company card amount =
      seenBy company (s.fundCard a company card amount) := by
  refine seenBy_check fun _ _ => seenBy_getCard fun c hCard => ?_
  have hHand : s.InHand company (topUp company card amount).cardId (a.freshId 0) :=
    .of_fresh hKeyed hFresh hCard
  rw [createTransaction_view hHand]
  refine seenBy_bind fun record written hCreate => ?_
  have hWritten : written.InHand company card (a.freshId 0) := hHand.createTransaction rfl hCreate
  dsimp only
  rw [credit_view hWritten.keyed hWritten.owned]
  refine seenBy_bind fun funded raised _ => ?_
  exact congrArg Except.ok (congrArg (Prod.mk funded) updateStatus_view.symm)

theorem setSpendingLimit_view {limit : Float} (hKeyed : s.CardsKeyed) :
    (s.view company).setSpendingLimit a company card limit =
      seenBy company (s.setSpendingLimit a company card limit) := by
  refine seenBy_check fun _ _ => seenBy_getCard fun c hCard => ?_
  exact changeCard_view hKeyed (owns_of_cardOf? hCard) fun _ => rfl

theorem setPeriodLimits_view {daily monthly : Option Float} (hKeyed : s.CardsKeyed) :
    (s.view company).setPeriodLimits a company card daily monthly =
      seenBy company (s.setPeriodLimits a company card daily monthly) := by
  refine seenBy_check fun _ _ => seenBy_check fun _ _ => seenBy_getCard fun c hCard => ?_
  exact changeCard_view hKeyed (owns_of_cardOf? hCard) fun _ => rfl

theorem blockCard_view {reason : Option String} (hKeyed : s.CardsKeyed) :
    (s.view company).blockCard a company card reason =
      seenBy company (s.blockCard a company card reason) := by
  refine seenBy_getCard fun c hCard => ?_
  exact changeCard_view hKeyed (owns_of_cardOf? hCard) fun _ => rfl

/-! ## The history of a card -/

theorem history_view {query : HistoryQuery} (hCard : query.card = some card) :
    (s.view company).history company query = s.history company query := by
  have hRows : (s.view company).queried company query.card = s.queried company query.card := by
    rw [hCard]
    unfold queried
    dsimp only
    rw [getCard_view]
    cases hGet : s.getCard company card with
    | error e => rfl
    | ok c =>
        have hOwned := owns_of_cardOf? (getCard_eq_ok_iff.mp hGet)
        rw [ok_bind, ok_bind, transactionsOfCard_view hOwned]
  unfold history
  rw [hRows]

/-! ## What the others see -/

/-- Money that is moved on a company's card is none to other companies. -/
theorem agreeOn_booked (hKeyed : s.CardsKeyed) (hOwned : s.owns company t.cardId = true)
    (hOther : tenant ≠ company) (hSite : ∀ c, (change c).site = c.site)
    (hCompany : t.companyId = company) :
    s.AgreeOn ((s.modifyCard t.cardId change).withTransaction t) tenant :=
  (agreeOn_modifyCard hKeyed hOwned hOther hSite).trans
    (agreeOn_withTransaction ((cardsKeyed_modifyCard (id_of_site hSite)).mpr hKeyed)
      ((owns_modifyCard hSite).trans hOwned) hOther hCompany)

theorem agreeOn_overwriteBalance {i : Interference} {held : Store} (hKeyed : s.CardsKeyed)
    (hOwned : s.owns company card = true) (hOther : tenant ≠ company)
    (hHeld : s.overwriteBalance i card = .ok held) : s.AgreeOn held tenant := by
  obtain ⟨balance, rfl⟩ := overwriteBalance_eq_ok hHeld
  exact agreeOn_modifyCard hKeyed hOwned hOther fun _ => rfl

theorem owns_overwriteBalance {i : Interference} {held : Store}
    (hHeld : s.overwriteBalance i card = .ok held) : held.owns company id = s.owns company id := by
  obtain ⟨balance, rfl⟩ := overwriteBalance_eq_ok hHeld
  exact owns_modifyCard fun _ => rfl

/-- What a company's call books leaves the others alone, although others still may set the balance of
the card while it runs. -/
theorem agreeOn_booked_held {i : Interference} {held : Store} (hKeyed : s.CardsKeyed)
    (hOwned : s.owns company t.cardId = true) (hOther : tenant ≠ company)
    (hHeld : s.overwriteBalance i t.cardId = .ok held) (hSite : ∀ c, (change c).site = c.site)
    (hCompany : t.companyId = company) :
    s.AgreeOn ((held.modifyCard t.cardId change).withTransaction t) tenant :=
  (agreeOn_overwriteBalance hKeyed hOwned hOther hHeld).trans
    (agreeOn_booked ((cardsKeyed_overwriteBalance hHeld).mpr hKeyed)
      ((owns_overwriteBalance hHeld).trans hOwned) hOther hSite hCompany)

theorem transactionsOfCompany_booked {i : Interference} {held : Store}
    (hHeld : s.overwriteBalance i card = .ok held) (hCompany : t.companyId = company) :
    ((held.modifyCard id change).withTransaction t).transactionsOfCompany company =
      s.transactionsOfCompany company ++ [t] := by
  unfold transactionsOfCompany
  rw [withTransaction_transactions, modifyCard_transactions, transactions_overwriteBalance hHeld,
    List.filter_append, List.filter_singleton, hCompany, beq_self_eq_true]
  rfl

theorem effect_booked {i : Interference} {held : Store} (hKeyed : s.CardsKeyed)
    (hOwned : s.owns company t.cardId = true) (hHeld : s.overwriteBalance i t.cardId = .ok held)
    (hSite : ∀ c, (change c).site = c.site) (hCompany : t.companyId = company) :
    s.TenantEffect ((held.modifyCard t.cardId change).withTransaction t) company [t] where
  record := transactionsOfCompany_booked hHeld hCompany
  others := fun _ hOther => agreeOn_booked_held hKeyed hOwned hOther hHeld hSite hCompany

theorem effect_of_fundCard {amount : Float} {result : Card × Store} (hKeyed : s.CardsKeyed)
    (hFund : s.fundCard a company card amount = .ok result) :
    s.TenantEffect result.2 company [(topUp company card amount).completed (a.freshId 0) a.now a.now] := by
  obtain ⟨_, -, hRest⟩ := bind_eq_ok_iff.mp hFund
  obtain ⟨c, hGet, -⟩ := bind_eq_ok_iff.mp hRest
  obtain ⟨-, -, held, d, hHeld, -, rfl⟩ := fundCard_eq_ok hKeyed hFund
  exact effect_booked (t := (topUp company card amount).completed (a.freshId 0) a.now a.now) hKeyed
    (owns_of_cardOf? (getCard_eq_ok_iff.mp hGet)) hHeld (Card.site_credited amount a.now) rfl

theorem effect_of_setting {i : Interference} {result : Card × Store} (hKeyed : s.CardsKeyed)
    (hSet : (s.getCard company card >>= fun _ => s.changeCard i card change) = .ok result)
    (hSite : ∀ c, (change c).site = c.site) :
    s.TenantEffect result.2 company [] := by
  obtain ⟨c, hGet, hChange⟩ := bind_eq_ok_iff.mp hSet
  have hOwned := owns_of_cardOf? (getCard_eq_ok_iff.mp hGet)
  rw [changeCard_eq_ok hChange]
  exact .of_transactions rfl fun _ hOther => agreeOn_modifyCard hKeyed hOwned hOther hSite

end Store

/-! ## Purchases -/

namespace Authorizer

variable {z : Authorizer} {r : PurchaseRequest} {now : Instant} {advisories : List Advisory}

theorem checkPeriods_view {amount : Float} (hOwned : s.owns company c.id = true) :
    z.checkPeriods (s.view company) c amount now = z.checkPeriods s c amount now := by
  unfold checkPeriods Store.spentToday Store.spentThisMonth
  rw [Store.spentDuring_view hOwned, Store.spentDuring_view hOwned]

theorem checkPolicy_view {category : String} (hOwned : s.owns company c.id = true) :
    z.checkPolicy (s.view company) c category now = z.checkPolicy s c category now := by
  unfold checkPolicy
  rw [Store.activeControlValues_view hOwned]

theorem screen_view : z.screen (s.view company) company r now = z.screen s company r now := by
  unfold screen
  rw [Store.getCard_view]
  cases hGet : s.getCard company r.card with
  | error e => rfl
  | ok c =>
      have hCard := Store.getCard_eq_ok_iff.mp hGet
      have hOwned : s.owns company c.id = true := by
        rw [(Store.cardOf?_eq_some hCard).2.1]
        exact Store.owns_of_cardOf? hCard
      rw [ok_bind, ok_bind, checkPeriods_view hOwned, checkPolicy_view hOwned]

theorem readBack_view (hHand : s.InHand company id record) :
    z.readBack (s.view company) record id c now advisories =
      z.readBack s record id c now advisories := by
  unfold readBack snapshot Store.spentToday Store.spentThisMonth
  rw [Store.transaction?_view hHand, Store.spentDuring_view hHand.owned,
    Store.spentDuring_view hHand.owned]

theorem commit_view (hHand : s.InHand company c.id (a.freshId 0)) :
    z.commit (s.view company) a c r now advisories =
      seenBy company (z.commit s a c r now advisories) := by
  -- each step leaves the card and the record in the hands of the company, for the next one to be moved
  rw [commit_eq_readBack, commit_eq_readBack, Store.createTransaction_view hHand]
  refine seenBy_bind fun row written hCreate => ?_
  have hWritten := hHand.createTransaction rfl hCreate
  have hRow : row.id = a.freshId 0 := by
    obtain ⟨-, -, -, held, -, hResult⟩ := Store.createTransaction_eq_ok_iff.mp hCreate
    cases hResult
    rfl
  dsimp only
  rw [Store.debit_view hWritten.keyed hWritten.owned, seenBy_liftFault]
  refine seenBy_bind fun debited lowered hDebit => ?_
  obtain ⟨-, -, d, -, -, hResult⟩ :=
    (Store.debit_eq_ok_iff hWritten.keyed).mp (liftFault_eq_ok_iff.mp hDebit)
  cases hResult
  have hLowered : (written.modifyCard c.id (·.debited r.amount a.now)).InHand company c.id row.id := by
    rw [hRow]
    exact hWritten.modifyCard (Card.site_debited r.amount a.now)
  dsimp only
  rw [← Store.updateStatus_view, readBack_view hLowered.updateStatus]
  refine seenBy_check fun purchase _ => ?_
  rfl

theorem authorize_view (hKeyed : s.CardsKeyed) (hFresh : s.IsFresh (a.freshId 0)) :
    z.authorize (s.view company) a company r now = seenBy company (z.authorize s a company r now) := by
  unfold authorize
  refine seenBy_check fun _ _ => seenBy_unless ?_
  rw [screen_view]
  refine seenBy_check fun found hScreen => ?_
  obtain ⟨hCard, -⟩ := screen_eq_ok hScreen
  rw [← (Store.cardOf?_eq_some hCard).2.1] at hCard
  exact commit_view (.of_fresh hKeyed hFresh hCard)

/-- What a purchase writes: a record of the company, for a card of the company. -/
theorem authorize_writes {result : AuthorizedPurchase × Store} (hKeyed : s.CardsKeyed)
    (hAuthorize : z.authorize s a company r now = .ok result) :
    ∃ held, s.overwriteBalance a.interference result.1.transaction.cardId = .ok held ∧
      s.owns company result.1.transaction.cardId = true ∧ result.1.transaction.companyId = company ∧
      result.2 = (held.modifyCard result.1.transaction.cardId
        (·.debited r.amount a.now)).withTransaction result.1.transaction := by
  obtain ⟨-, -, -, found, notes, hScreen, hCommit⟩ := authorize_eq_ok hAuthorize
  obtain ⟨hCard, -⟩ := screen_eq_ok hScreen
  obtain ⟨-, -, held, d, spend, hHeld, -, -, -, rfl⟩ := commit_eq_ok hKeyed hCommit
  obtain ⟨-, hId, hCompany⟩ := Store.cardOf?_eq_some hCard
  rw [← hId] at hCard
  exact ⟨held, hHeld, Store.owns_of_cardOf? hCard, hCompany, rfl⟩

theorem effect_of_authorize {result : AuthorizedPurchase × Store} (hKeyed : s.CardsKeyed)
    (hAuthorize : z.authorize s a company r now = .ok result) :
    s.TenantEffect result.2 company [result.1.transaction] := by
  obtain ⟨held, hHeld, hOwned, hCompany, hStore⟩ := authorize_writes hKeyed hAuthorize
  rw [hStore]
  exact Store.effect_booked hKeyed hOwned hHeld (Card.site_debited r.amount a.now) hCompany

end Authorizer

end CardLedger
