import CardLedger.Proofs.AuditTrail
import CardLedger.Proofs.GrowingSums
import CardLedger.Proofs.TenantView

/-!
# Cards that are out of use

A card that is not active stays out of use for good, whatever callers do besides taking money off balances
and moving transactions by hand. No operation makes a card active again or issues it a second time; limits,
controls, a second block, funds and the status of its company leave it as unusable as it was. Nothing is
bought with it any more, so its balance can only grow and what it has spent stays the same.

The invariant is told for all cards at once: a purchase debits a card that is active, and so none of these.
-/

namespace CardLedger

/-! ## What becomes of a card -/

/-- A card that is out of use: blocked, expired, cancelled, or of a status that is none. -/
def Card.IsInactive (c : Card) : Prop :=
  c.status? ≠ some .active

/-- What a card may have become: its expiry stays, and one that is out of use stays so and loses no funds. -/
structure Card.Later (c later : Card) : Prop where
  id : later.id = c.id
  expiry : later.expiry = c.expiry
  inactive : c.IsInactive → later.IsInactive
  balance : c.IsInactive → c.balance.isNaN = false → c.balance ≤ later.balance

namespace Card.Later

variable {c d last : Card}

theorem of_settings (hId : d.id = c.id) (hExpiry : d.expiry = c.expiry)
    (hInactive : c.IsInactive → d.IsInactive) (hBalance : d.balance = c.balance) : c.Later d where
  id := hId
  expiry := hExpiry
  inactive := hInactive
  balance := by
    intro _ hNumber
    rw [hBalance]
    exact Binary64.le_refl hNumber

theorem refl (c : Card) : c.Later c :=
  .of_settings rfl rfl (fun hInactive => hInactive) rfl

theorem trans (hFirst : c.Later d) (hSecond : d.Later last) : c.Later last where
  id := hSecond.id.trans hFirst.id
  expiry := hSecond.expiry.trans hFirst.expiry
  inactive := hSecond.inactive ∘ hFirst.inactive
  balance := by
    intro hInactive hNumber
    have hLe := hFirst.balance hInactive hNumber
    exact Binary64.le_trans hLe (hSecond.balance (hFirst.inactive hInactive) (Binary64.isNaN_of_le hLe).2)

theorem credited {amount : Float} (hAmount : isAmount amount = true) (now : Instant) :
    c.Later (c.credited amount now) where
  id := rfl
  expiry := rfl
  inactive := fun hInactive => hInactive
  balance := by
    intro _ hNumber
    obtain ⟨hFinite, hPos⟩ := isAmount_iff.mp hAmount
    exact Binary64.le_add_of_pos hNumber hFinite hPos

/-- A card that is debited was active, so that nothing is asked of it but its expiry. -/
theorem debited {amount : Float} {now : Instant} (hActive : c.status? = some .active) :
    c.Later (c.debited amount now) where
  id := rfl
  expiry := rfl
  inactive := fun hInactive => absurd hActive hInactive
  balance := fun hInactive => absurd hActive hInactive

theorem blocked {reason : Option String} {now : Instant} :
    c.Later { c with
      status := CardStatus.blocked.name, blockedAt := some now, blockedReason := reason, updatedAt := now } := by
  refine .of_settings rfl rfl (fun _ => ?_) rfl
  have hBlocked : CardStatus.ofName? CardStatus.blocked.name = some .blocked := rfl
  unfold IsInactive Card.status?
  rw [hBlocked]
  decide

end Card.Later

/-! ## What becomes of a store -/

/-- The purchases of a card, whatever their status. -/
def Store.purchasesOf (s : Store) (card : Uuid) : List Transaction :=
  s.transactions.filter fun t => t.cardId == card && t.type == .purchase

/-- A store has become another one that spares the cards out of use: all cards are kept, and no purchase is
added for such a card but pending ones that were recorded by hand. -/
structure Store.Spares (recorded : Uuid → Prop) (s next : Store) : Prop where
  keyed : next.CardsKeyed
  cards : RowsKept Card.Later s.cards next.cards
  purchases : ∀ c ∈ s.cards, c.IsInactive →
    ∃ added, next.purchasesOf c.id = s.purchasesOf c.id ++ added ∧
      ∀ t ∈ added, t.status = .pending ∧ recorded c.id

namespace Store.Spares

variable {recorded : Uuid → Prop} {s next last : Store} {id : Uuid} {change : Card → Card}
  {t : Transaction}

theorem of_cards (hKeyed : next.CardsKeyed) (hCards : RowsKept Card.Later s.cards next.cards)
    (hRecord : next.transactions = s.transactions) : Spares recorded s next where
  keyed := hKeyed
  cards := hCards
  purchases := by
    intro c _ _
    refine ⟨[], ?_, by simp⟩
    unfold purchasesOf
    rw [hRecord, List.append_nil]

theorem of_same (hKeyed : s.CardsKeyed) (hCards : next.cards = s.cards)
    (hRecord : next.transactions = s.transactions) : Spares recorded s next := by
  refine .of_cards ((cardsKeyed_of_ids (by rw [hCards])).mpr hKeyed) ?_ hRecord
  rw [hCards]
  exact .refl Card.Later.refl

theorem refl (hKeyed : s.CardsKeyed) : Spares recorded s s :=
  .of_same hKeyed rfl rfl

theorem rowsKept_modifyCard (hChange : ∀ c ∈ s.cards, c.id = id → c.Later (change c)) :
    RowsKept Card.Later s.cards (s.modifyCard id change).cards := by
  refine .map fun c hMem => ?_
  by_cases hId : c.id = id
  · rw [if_pos hId]
    exact hChange c hMem hId
  · rw [if_neg hId]
    exact .refl c

theorem of_modifyCard (hKeyed : s.CardsKeyed) (hChange : ∀ c : Card, c.Later (change c)) :
    Spares recorded s (s.modifyCard id change) :=
  .of_cards ((cardsKeyed_modifyCard fun c => (hChange c).id).mpr hKeyed)
    (rowsKept_modifyCard fun c _ _ => hChange c) rfl

/-- One card is changed and one transaction added; a purchase of a card out of use is pending and recorded. -/
theorem of_booked (hKeyed : s.CardsKeyed) (hId : ∀ c, (change c).id = c.id)
    (hChange : ∀ c ∈ s.cards, c.id = id → c.Later (change c))
    (hAdded : ∀ c ∈ s.cards, c.IsInactive → t.cardId = c.id → t.type = .purchase →
      t.status = .pending ∧ recorded c.id) :
    Spares recorded s ((s.modifyCard id change).withTransaction t) where
  keyed := cardsKeyed_withTransaction.mpr ((cardsKeyed_modifyCard hId).mpr hKeyed)
  cards := rowsKept_modifyCard hChange
  purchases := by
    intro c hMem hInactive
    unfold purchasesOf
    rw [withTransaction_transactions, List.filter_append]
    refine ⟨_, rfl, fun purchase hPurchase => ?_⟩
    obtain ⟨hOne, hFits⟩ := List.mem_filter.mp hPurchase
    obtain rfl := List.mem_singleton.mp hOne
    obtain ⟨hCard, hType⟩ := Bool.and_eq_true_iff.mp hFits
    exact hAdded c hMem hInactive (beq_iff_eq.mp hCard) (beq_iff_eq.mp hType)

theorem trans (hFirst : Spares recorded s next) (hSecond : Spares recorded next last) :
    Spares recorded s last where
  keyed := hSecond.keyed
  cards := hFirst.cards.trans Card.Later.trans hSecond.cards
  purchases := by
    intro c hMem hInactive
    obtain ⟨added, hAdded, hPending⟩ := hFirst.purchases c hMem hInactive
    -- the same card in the store between, where it is out of use as well
    obtain ⟨i, hRow⟩ := List.mem_iff_getElem?.mp hMem
    obtain ⟨d, hBetween, hLater⟩ := hFirst.cards i c hRow
    obtain ⟨more, hMore, hMorePending⟩ :=
      hSecond.purchases d (List.mem_of_getElem? hBetween) (hLater.inactive hInactive)
    rw [hLater.id] at hMore hMorePending
    refine ⟨added ++ more, by rw [hMore, hAdded, List.append_assoc], ?_⟩
    exact List.forall_mem_append.mpr ⟨hPending, hMorePending⟩

theorem mono {more : Uuid → Prop} (hMore : ∀ id, recorded id → more id)
    (hSpares : Spares recorded s next) : Spares more s next where
  keyed := hSpares.keyed
  cards := hSpares.cards
  purchases := by
    intro c hMem hInactive
    obtain ⟨added, hAdded, hPending⟩ := hSpares.purchases c hMem hInactive
    exact ⟨added, hAdded, fun t ht => ⟨(hPending t ht).1, hMore _ (hPending t ht).2⟩⟩

end Store.Spares

/-! ## What callers do -/

/-- A write that takes nothing off a balance and moves no transaction. -/
def LedgerWrite.IsSparing : LedgerWrite → Prop
  | record .. | credit .. => True
  | debit .. | move .. => False

/-- An activity without debits and moves of transactions made by hand, and while nobody else sets balances. -/
def Activity.IsSparing : Activity → Prop
  | operation _ a => a.interference.balanceAfterRecord = none
  | writes steps kept => kept = true →
      ∀ step ∈ steps, step.1.IsSparing ∧ step.2.interference.balanceAfterRecord = none
  | start .. => True

/-- Whether a write records a purchase of a card. -/
def LedgerWrite.RecordsPurchase (card : Uuid) : LedgerWrite → Prop
  | record new _ => new.cardId = card ∧ new.type = .purchase
  | debit .. | credit .. | move .. => False

/-- Whether an activity records a purchase of a card by hand. -/
def Activity.RecordsPurchase (card : Uuid) : Activity → Prop
  | operation .. | start .. => False
  | writes steps kept => kept = true ∧ ∃ step ∈ steps, step.1.RecordsPurchase card

variable {recorded : Uuid → Prop} {s next : Store} {a : Ambient} {company card : Uuid} {c : Card}

namespace Authorizer

variable {z : Authorizer} {r : PurchaseRequest} {now : Instant} {advisories : List Advisory}

theorem isActive_of_checkUsable (hUsable : z.checkUsable c now = .ok advisories) :
    c.status? = some .active ∧ ¬ c.expiry ≤ now := by
  obtain ⟨hActive, hRest⟩ := unless_eq_ok_iff.mp hUsable
  refine ⟨not_not.mp hActive, fun hExpired => ?_⟩
  -- whether its date can be told or not, a card that has expired fails
  rw [if_pos hExpired] at hRest
  obtain ⟨date, -, hDenied⟩ := bind_eq_ok_iff.mp hRest
  cases hDenied

/-- A purchase that goes through is made with an active card of the store that has not expired. -/
theorem card_of_authorize {result : AuthorizedPurchase × Store}
    (hAuthorize : z.authorize s a company r now = .ok result) :
    ∃ d ∈ s.cards, d.id = r.card ∧ d.status? = some .active ∧ ¬ d.expiry ≤ now := by
  obtain ⟨-, -, -, d, advisories, hScreen, -⟩ := authorize_eq_ok hAuthorize
  obtain ⟨hCard, hUsable, -⟩ := screen_eq_ok hScreen
  obtain ⟨hMem, hId, -⟩ := Store.cardOf?_eq_some hCard
  exact ⟨d, hMem, hId, isActive_of_checkUsable hUsable⟩

theorem spares_of_authorize {result : AuthorizedPurchase × Store} (hKeyed : s.CardsKeyed)
    (hAlone : a.interference.balanceAfterRecord = none)
    (hAuthorize : z.authorize s a company r now = .ok result) : s.Spares recorded result.2 := by
  obtain ⟨d, advisories, hCard, hUsable, hStore⟩ := authorize_withPurchase hKeyed hAlone hAuthorize
  obtain ⟨hMem, -, -⟩ := Store.cardOf?_eq_some hCard
  have hOwn : ∀ c ∈ s.cards, c.id = d.id → c.status? = some .active := by
    intro c hRow hId
    rw [Store.eq_of_keyed hKeyed hRow hMem hId]
    exact (isActive_of_checkUsable hUsable).1
  rw [hStore]
  refine .of_booked hKeyed (fun _ => rfl) (fun c hRow hId => .debited (hOwn c hRow hId)) ?_
  -- the purchase is one of a card that is active
  intro c hRow hInactive hCardId
  exact absurd (hOwn c hRow hCardId.symm) hInactive

end Authorizer

namespace Store

theorem spares_of_fundCard {amount : Float} {result : Card × Store} (hKeyed : s.CardsKeyed)
    (hAlone : a.interference.balanceAfterRecord = none)
    (hFund : s.fundCard a company card amount = .ok result) : s.Spares recorded result.2 := by
  obtain ⟨hAmount, -, held, -, hHeld, -, rfl⟩ := fundCard_eq_ok hKeyed hFund
  rw [held_eq_of_alone hAlone hHeld]
  refine .of_booked hKeyed (fun _ => rfl) (fun c _ _ => .credited hAmount a.now) ?_
  intro c _ _ _ hType
  cases hType

theorem spares_of_issue {settings : IssuanceSettings} {result : List Card × Store} (hKeyed : s.CardsKeyed)
    (hIssue : s.issue a settings company = .ok result) : s.Spares recorded result.2 := by
  obtain ⟨-, hStore, hNextKeyed, -⟩ := issue_eq_ok hKeyed hIssue
  refine .of_cards hNextKeyed ?_ (by rw [hStore])
  rw [hStore]
  exact .append Card.Later.refl result.1

theorem spares_of_setting {result : Card × Store} {change : Card → Card} (hKeyed : s.CardsKeyed)
    (hChange : s.changeCard a.interference card change = .ok result)
    (hLater : ∀ c : Card, c.Later (change c)) : s.Spares recorded result.2 := by
  rw [changeCard_eq_ok hChange]
  exact .of_modifyCard hKeyed hLater

end Store

/-- An operation that goes through spares the cards out of use. -/
theorem spares_of_apply {operation : Operation} (hKeyed : s.CardsKeyed)
    (hAlone : a.interference.balanceAfterRecord = none) (hApply : operation.apply s a = .ok next) :
    s.Spares recorded next := by
  unfold Operation.apply at hApply
  cases operation with
  | registerCompany new =>
      obtain ⟨result, hRun, rfl⟩ := map_eq_ok_iff.mp hApply
      have hStore := Store.registerCompany_eq_ok hRun
      exact .of_same hKeyed (by rw [hStore]) (by rw [hStore])
  | setCompanyStatus company status =>
      obtain ⟨result, hRun, rfl⟩ := map_eq_ok_iff.mp hApply
      have hStore := Store.setCompanyStatus_eq_ok hRun
      exact .of_same hKeyed (by rw [hStore]) (by rw [hStore])
  | enqueue company employees =>
      obtain ⟨result, hRun, rfl⟩ := map_eq_ok_iff.mp hApply
      obtain ⟨-, -, hStore⟩ := Store.enqueue_eq_ok hRun
      exact .of_same hKeyed (by rw [hStore]) (by rw [hStore])
  | issue settings company =>
      obtain ⟨result, hRun, rfl⟩ := map_eq_ok_iff.mp hApply
      exact Store.spares_of_issue hKeyed hRun
  | fundCard company card amount =>
      obtain ⟨result, hRun, rfl⟩ := map_eq_ok_iff.mp hApply
      exact Store.spares_of_fundCard hKeyed hAlone hRun
  | setSpendingLimit company card limit =>
      obtain ⟨result, hRun, rfl⟩ := map_eq_ok_iff.mp hApply
      obtain ⟨_, -, hRest⟩ := bind_eq_ok_iff.mp hRun
      obtain ⟨_, -, hChange⟩ := bind_eq_ok_iff.mp hRest
      exact Store.spares_of_setting hKeyed hChange fun c => .of_settings rfl rfl (fun hOut => hOut) rfl
  | setPeriodLimits company card daily monthly =>
      obtain ⟨result, hRun, rfl⟩ := map_eq_ok_iff.mp hApply
      obtain ⟨_, -, hRest⟩ := bind_eq_ok_iff.mp hRun
      obtain ⟨_, -, hRest⟩ := bind_eq_ok_iff.mp hRest
      obtain ⟨_, -, hChange⟩ := bind_eq_ok_iff.mp hRest
      exact Store.spares_of_setting hKeyed hChange fun c => .of_settings rfl rfl (fun hOut => hOut) rfl
  | blockCard company card reason =>
      obtain ⟨result, hRun, rfl⟩ := map_eq_ok_iff.mp hApply
      obtain ⟨_, -, hChange⟩ := bind_eq_ok_iff.mp hRun
      exact Store.spares_of_setting hKeyed hChange fun _ => .blocked
  | upsertControl company card control =>
      obtain ⟨result, hRun, rfl⟩ := map_eq_ok_iff.mp hApply
      have hStore := Store.upsertControl_eq_ok hRun
      exact .of_same hKeyed (by rw [hStore]) (by rw [hStore])
  | deactivateControl company card kind =>
      obtain ⟨result, hRun, rfl⟩ := map_eq_ok_iff.mp hApply
      have hStore := Store.deactivateControl_eq_ok hRun
      exact .of_same hKeyed (by rw [hStore]) (by rw [hStore])
  | authorize z company r now =>
      obtain ⟨result, hRun, rfl⟩ := map_eq_ok_iff.mp hApply
      exact Authorizer.spares_of_authorize hKeyed hAlone hRun

theorem spares_of_write {write : LedgerWrite} (hKeyed : s.CardsKeyed) (hSparing : write.IsSparing)
    (hAlone : a.interference.balanceAfterRecord = none) (hApply : write.apply s a = .ok next) :
    s.Spares (write.RecordsPurchase ·) next := by
  unfold LedgerWrite.apply at hApply
  cases write with
  | debit | move => exact hSparing.elim
  | record new createdAt =>
      obtain ⟨result, hRun, rfl⟩ := map_eq_ok_iff.mp hApply
      obtain ⟨-, -, -, held, hHeld, rfl⟩ := Store.createTransaction_eq_ok_iff.mp hRun
      rw [Store.held_eq_of_alone hAlone hHeld]
      have hBooked : s.Spares ((LedgerWrite.record new createdAt).RecordsPurchase ·)
          ((s.modifyCard new.cardId fun c => c).withTransaction (new.record (a.freshId 0) createdAt)) :=
        .of_booked hKeyed (fun _ => rfl) (fun c _ _ => .refl c)
          fun _ _ _ hCard hType => ⟨rfl, hCard, hType⟩
      rwa [Store.modifyCard_unchanged] at hBooked
  | credit card amount =>
      obtain ⟨result, hRun, rfl⟩ := map_eq_ok_iff.mp hApply
      obtain ⟨hAmount, -, c, -, rfl⟩ := (Store.credit_eq_ok_iff hKeyed).mp hRun
      exact .of_modifyCard hKeyed fun d => .credited hAmount a.now

theorem spares_of_writes {steps : List (LedgerWrite × Ambient)} (hKeyed : s.CardsKeyed)
    (hSparing : ∀ step ∈ steps, step.1.IsSparing ∧ step.2.interference.balanceAfterRecord = none) :
    s.Spares (fun id => ∃ step ∈ steps, step.1.RecordsPurchase id) (steps.foldl Store.afterWrite s) := by
  induction steps generalizing s with
  | nil => exact .refl hKeyed
  | cons step rest ih =>
      obtain ⟨⟨hStep, hAlone⟩, hRest⟩ := List.forall_mem_cons.mp hSparing
      have hFirst : s.Spares (step.1.RecordsPurchase ·) (s.afterWrite step) :=
        Store.orLeft_preserves (.refl hKeyed) fun next hApply => spares_of_write hKeyed hStep hAlone hApply
      refine (hFirst.mono fun id hRecords => ?_).trans ((ih hFirst.keyed hRest).mono fun id hLater => ?_)
      · exact ⟨step, List.mem_cons_self, hRecords⟩
      · obtain ⟨later, hMem, hRecords⟩ := hLater
        exact ⟨later, List.mem_cons_of_mem step hMem, hRecords⟩

theorem Store.OnboardingEnd.spares {a : Nat → Ambient} {settings : IssuanceSettings} {seed : CompanySeed}
    {outcome : Except Error Unit} (hKeyed : s.CardsKeyed)
    (hEnd : s.OnboardingEnd a settings seed outcome next) : s.Spares recorded next := by
  cases hEnd with
  | known hKnown => exact .refl hKeyed
  | refused hUnknown hRefused => exact .refl hKeyed
  | registered hUnknown hRegister hNobody =>
      have hStore := registerCompany_eq_ok hRegister
      exact .of_same hKeyed (by rw [hStore]) (by rw [hStore])
  | unqueued hUnknown hRegister hSomebody hUnqueued =>
      have hStore := registerCompany_eq_ok hRegister
      exact .of_same hKeyed (by rw [hStore]) (by rw [hStore])
  | unissued hUnknown hRegister hSomebody hEnqueue hUnissued =>
      have hStore := (enqueue_eq_ok hEnqueue).2.2.trans (by rw [registerCompany_eq_ok hRegister])
      exact .of_same hKeyed (by rw [hStore]) (by rw [hStore])
  | @issued _ queued _ hUnknown hRegister hSomebody hEnqueue hIssue =>
      have hQueued : s.Spares recorded queued.2 := by
        have hStore := (enqueue_eq_ok hEnqueue).2.2.trans (by rw [registerCompany_eq_ok hRegister])
        exact .of_same hKeyed (by rw [hStore]) (by rw [hStore])
      exact hQueued.trans (spares_of_issue hQueued.keyed hIssue)

theorem spares_of_activity {activity : Activity} (hKeyed : s.CardsKeyed) (hSparing : activity.IsSparing) :
    s.Spares (activity.RecordsPurchase ·) (s.afterActivity activity) := by
  cases activity with
  | operation operation a =>
      exact Store.orLeft_preserves (.refl hKeyed) fun next hApply => spares_of_apply hKeyed hSparing hApply
  | writes steps kept =>
      cases kept with
      | false => exact .refl hKeyed
      | true => exact (spares_of_writes hKeyed (hSparing rfl)).mono fun id hRecords => ⟨rfl, hRecords⟩
  | start settings a =>
      change s.Spares _ (s.start a settings).2
      rw [Store.start_snd]
      refine Store.onboardAll_preserves (P := fun next => s.Spares _ next) ?_ (.refl hKeyed) a _
      intro _ _ _ _ _ hSpares hEnd
      exact hSpares.trans (hEnd.spares hSpares.keyed)

theorem spares_of_activities {activities : List Activity} (hKeyed : s.CardsKeyed)
    (hSparing : ∀ activity ∈ activities, activity.IsSparing) :
    s.Spares (fun id => ∃ activity ∈ activities, activity.RecordsPurchase id)
      (s.afterActivities activities) := by
  induction activities generalizing s with
  | nil => exact .refl hKeyed
  | cons activity rest ih =>
      obtain ⟨hFirst, hRest⟩ := List.forall_mem_cons.mp hSparing
      have hSpares := spares_of_activity hKeyed hFirst
      rw [Store.afterActivities_cons]
      refine (hSpares.mono fun id hRecords => ?_).trans ((ih hSpares.keyed hRest).mono fun id hLater => ?_)
      · exact ⟨activity, List.mem_cons_self, hRecords⟩
      · obtain ⟨later, hMem, hRecords⟩ := hLater
        exact ⟨later, List.mem_cons_of_mem activity hMem, hRecords⟩

/-! ## What a card has spent -/

/-- Pending purchases are no spending. -/
theorem spentIn_of_purchases {added : List Transaction} (w : Window)
    (hAdded : next.purchasesOf card = s.purchasesOf card ++ added)
    (hPending : ∀ t ∈ added, t.status = .pending) : next.spentIn card w = s.spentIn card w := by
  have hPurchases : ∀ rows : List Transaction,
      (rows.filter fun t => t.cardId == card && t.type == .purchase).filter (·.countsIn card w) =
        rows.filter (·.countsIn card w) := by
    intro rows
    refine filter_filter_of_imp fun t _ hCounts => ?_
    simp only [Transaction.countsIn, Bool.and_eq_true] at hCounts ⊢
    exact hCounts.1.1.1
  have hNone : added.filter (·.countsIn card w) = [] := by
    rw [List.filter_eq_nil_iff]
    intro t hMem hCounts
    simp [Transaction.countsIn, hPending t hMem] at hCounts
  have hRows : next.transactions.filter (·.countsIn card w) = s.transactions.filter (·.countsIn card w) := by
    rw [← hPurchases next.transactions, ← hPurchases s.transactions]
    unfold Store.purchasesOf at hAdded
    rw [hAdded, List.filter_append, hNone, List.append_nil]
  unfold Store.spentIn
  rw [hRows]

theorem spentDuring_of_purchases {added : List Transaction} (window : Except WindowFault Window)
    (hAdded : next.purchasesOf card = s.purchasesOf card ++ added)
    (hPending : ∀ t ∈ added, t.status = .pending) :
    next.spentDuring card window = s.spentDuring card window := by
  unfold Store.spentDuring
  simp only [spentIn_of_purchases _ hAdded hPending]

/-! ## Out of use for good -/

/-- **A card out of use stays out of use.** Take any card of any store, and let callers go on as they like,
except that nobody lowers balances or moves transactions by hand. The card is still there with its expiry,
and from that instant on no purchase is let through with it. If it was not active it never is again: no
purchase with it is let through at all, the record of its purchases stays as it was but for pending ones
that callers have recorded by hand, its balance is no lower, and what it has spent is the same on every day
and in every month. -/
theorem inactive_card_stays_inactive {activities : List Activity} (hKeyed : s.CardsKeyed)
    (hMem : c ∈ s.cards) (hSparing : ∀ activity ∈ activities, activity.IsSparing) :
    let later := s.afterActivities activities
    ∃ d, later.card? c.id = some d ∧ d.expiry = c.expiry ∧
      (∀ (z : Authorizer) (a : Ambient) (company : Uuid) (r : PurchaseRequest) (now : Instant), r.card = c.id →
        c.expiry ≤ now → ∀ result, z.authorize later a company r now ≠ .ok result) ∧
      (c.status? ≠ some .active →
        d.status? ≠ some .active ∧
        (∀ (z : Authorizer) (a : Ambient) (company : Uuid) (r : PurchaseRequest) (now : Instant),
          r.card = c.id → ∀ result, z.authorize later a company r now ≠ .ok result) ∧
        ((∀ activity ∈ activities, ¬ activity.RecordsPurchase c.id) →
          later.purchasesOf c.id = s.purchasesOf c.id) ∧
        (∃ added, later.purchasesOf c.id = s.purchasesOf c.id ++ added ∧ ∀ t ∈ added, t.status = .pending) ∧
        ¬ d.balance < c.balance ∧ (c.balance.isNaN = false → c.balance ≤ d.balance) ∧
        ∀ (o : Offset) (now : Instant), later.spentToday o c.id now = s.spentToday o c.id now ∧
          later.spentThisMonth o c.id now = s.spentThisMonth o c.id now) := by
  intro later
  have hSpares := spares_of_activities hKeyed hSparing
  obtain ⟨i, hRow⟩ := List.mem_iff_getElem?.mp hMem
  obtain ⟨d, hLaterRow, hLater⟩ := hSpares.cards i c hRow
  have hLaterMem : d ∈ later.cards := List.mem_of_getElem? hLaterRow
  have hOnly : ∀ e ∈ later.cards, e.id = c.id → e = d := fun e hOther hId =>
    Store.eq_of_keyed hSpares.keyed hOther hLaterMem (hId.trans hLater.id.symm)
  refine ⟨d, (Store.card?_eq_some_iff hSpares.keyed).mpr ⟨hLaterMem, hLater.id⟩, hLater.expiry, ?_, ?_⟩
  · intro z a company r now hCard hExpired result hAuthorize
    obtain ⟨e, hOther, hId, -, hValid⟩ := Authorizer.card_of_authorize hAuthorize
    rw [hOnly e hOther (hId.trans hCard), hLater.expiry] at hValid
    exact hValid hExpired
  · intro hInactive
    obtain ⟨added, hAdded, hPending⟩ := hSpares.purchases c hMem hInactive
    have hStatus : ∀ t ∈ added, t.status = .pending := fun t ht => (hPending t ht).1
    refine ⟨hLater.inactive hInactive, ?_, ?_, ⟨added, hAdded, hStatus⟩, ?_, hLater.balance hInactive, ?_⟩
    · intro z a company r now hCard result hAuthorize
      obtain ⟨e, hOther, hId, hActive, -⟩ := Authorizer.card_of_authorize hAuthorize
      rw [hOnly e hOther (hId.trans hCard)] at hActive
      exact hLater.inactive hInactive hActive
    · intro hNobody
      have hNone : added = [] := by
        rw [List.eq_nil_iff_forall_not_mem]
        intro t ht
        obtain ⟨activity, hActivity, hRecords⟩ := (hPending t ht).2
        exact hNobody activity hActivity hRecords
      rw [hNone, List.append_nil] at hAdded
      exact hAdded
    · intro hLess
      have hNumber : c.balance.isNaN = false := (Binary64.isNaN_of_le (Binary64.le_of_lt hLess)).2
      exact Binary64.not_le_of_lt hLess (hLater.balance hInactive hNumber)
    · exact fun o now => ⟨spentDuring_of_purchases _ hAdded hStatus, spentDuring_of_purchases _ hAdded hStatus⟩

namespace Sample

/-- The card of the sample, blocked. -/
def blockedCard : Card :=
  { Sample.card with status := CardStatus.blocked.name, blockedAt := some .epoch }

/-- A store with nothing but the blocked card. -/
def blockedStore : Store :=
  { cards := [blockedCard] }

/-- Funds are loaded, the card is blocked again, a purchase is recorded and a refund credited by hand, and
a purchase is tried. -/
def afterBlocking : List Activity :=
  [.operation (.fundCard Sample.company Sample.card.id 50) (surroundings 1),
    .operation (.blockCard Sample.company Sample.card.id (some "lost")) (surroundings 2),
    .writes [(.record (request.newTransaction Sample.card) .epoch, surroundings 3),
      (.credit Sample.card.id 25, surroundings 4)] true,
    .operation (.authorize {} Sample.company request .epoch) (surroundings 5)]

end Sample

/-- The blocked card has more funds than before and is still blocked. -/
theorem inactive_card_stays_inactive_of_blocked :
    let later := Sample.blockedStore.afterActivities Sample.afterBlocking
    later.transactions.length = 2 ∧ ∃ d, later.card? Sample.card.id = some d ∧ d.balance = 175 ∧
      d.status? ≠ some .active ∧ d.expiry = Sample.card.expiry ∧
      (∃ added, later.purchasesOf Sample.card.id = added ∧ ∀ t ∈ added, t.status = .pending) ∧
      (100 : Float) ≤ d.balance := by
  intro later
  have hKeyed : Sample.blockedStore.CardsKeyed := by
    unfold Store.CardsKeyed
    decide
  have hSparing : ∀ activity ∈ Sample.afterBlocking, activity.IsSparing := by
    simp only [Sample.afterBlocking, Activity.IsSparing, List.forall_mem_cons, List.not_mem_nil]
    simp [LedgerWrite.IsSparing, Sample.surroundings]
  have hBalance : (later.card? Sample.card.id).map (·.balance) = some 175 := by decide +kernel
  obtain ⟨d, hCard, hExpiry, -, hInactive⟩ := inactive_card_stays_inactive hKeyed
    (List.mem_singleton_self Sample.blockedCard) hSparing
  obtain ⟨hStatus, -, -, hPurchases, -, hLe, -⟩ := hInactive (by decide)
  refine ⟨by decide +kernel, d, hCard, ?_, hStatus, hExpiry, hPurchases, hLe (by decide)⟩
  rw [show later.card? Sample.card.id = some d from hCard] at hBalance
  exact Option.some.inj hBalance

end CardLedger
