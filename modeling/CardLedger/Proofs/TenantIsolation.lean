import CardLedger.Proofs.Freshness
import CardLedger.Proofs.TenantIssuance

/-!
# Isolation of companies

What a company is told and what becomes of its part of the store depends on its part of the store alone,
whichever of its operations is called with whatever arguments; and nothing of other companies changes.
The two runs that are compared have the same surroundings. Identifiers that are drawn and stamps of the
clock are therefore the same in both, and results are equal as they stand.
-/

namespace CardLedger

/-- An operation that is called for a company, with its arguments. -/
inductive TenantOperation where
  | getCard (card : Uuid)
  | findCard (card : Uuid)
  | listCards
  | history (query : HistoryQuery)
  | pending
  | fundCard (card : Uuid) (amount : Float)
  | setSpendingLimit (card : Uuid) (limit : Float)
  | setPeriodLimits (card : Uuid) (daily monthly : Option Float)
  | blockCard (card : Uuid) (reason : Option String)
  | upsertControl (card : Uuid) (control : ControlValue)
  | deactivateControl (card : Uuid) (kind : ControlType)
  | authorize (z : Authorizer) (r : PurchaseRequest) (now : Instant)
  | enqueue (employees : List EmployeeRecord)
  | issue (settings : IssuanceSettings)

/-- What an operation gives. -/
inductive TenantAnswer where
  | card (c : Card)
  | found (c : Option Card)
  | cards (cards : List Card)
  | page (page : HistoryPage)
  | rows (rows : List QueueRow)
  | control (row : ControlRow)
  | deactivated (any : Bool)
  | purchase (p : AuthorizedPurchase)

/-- What is told of an outcome, with the store that is left. -/
def told {α : Type} (tell : α → TenantAnswer) (outcome : Except Error (α × Store)) :
    Except Error (TenantAnswer × Store) :=
  outcome.map fun result => (tell result.1, result.2)

/-- What is told of a value that was read. -/
def readOut {α : Type} (tell : α → TenantAnswer) (s : Store) (value : Except Error α) :
    Except Error (TenantAnswer × Store) :=
  value.map fun v => (tell v, s)

namespace TenantOperation

variable (company : Uuid) (s : Store) (a : Ambient)

/-- An operation called for a company: what it gives, and the store that it leaves. -/
def run : TenantOperation → Except Error (TenantAnswer × Store)
  | getCard card => readOut .card s (s.getCard company card)
  | findCard card => readOut .found s (.ok (s.cardOf? company card))
  | listCards => readOut .cards s (.ok (s.listCards company))
  | history query => readOut .page s (s.history company query)
  | pending => readOut .rows s (.ok (s.pending company))
  | fundCard card amount => told .card (s.fundCard a company card amount)
  | setSpendingLimit card limit => told .card (s.setSpendingLimit a company card limit)
  | setPeriodLimits card daily monthly => told .card (s.setPeriodLimits a company card daily monthly)
  | blockCard card reason => told .card (s.blockCard a company card reason)
  | upsertControl card control => told .control (s.upsertControl a company card control)
  | deactivateControl card kind => told .deactivated (s.deactivateControl a company card kind)
  | authorize z r now => told .purchase (z.authorize s a company r now)
  | enqueue employees => told .rows (s.enqueue a company employees)
  | issue settings => told .cards (s.issue a settings company)

/-- What the caller is told. -/
def answer (operation : TenantOperation) : Except Error TenantAnswer :=
  (operation.run company s a).map (·.1)

/-- The store after a call: the one that the operation leaves, or the old one if it fails. -/
def storeAfter (operation : TenantOperation) : Store :=
  match operation.run company s a with
  | .ok (_, next) => next
  | .error _ => s

/-- The card that an operation is about, if it is about one. -/
def card? : TenantOperation → Option Uuid
  | getCard card | findCard card | fundCard card _ | setSpendingLimit card _ | setPeriodLimits card _ _
  | blockCard card _ | upsertControl card _ | deactivateControl card _ => some card
  | history query => query.card
  | authorize _ r _ => some r.card
  | listCards | pending | enqueue _ | issue _ => none

/-- How many identifiers an operation can draw. -/
def draws : TenantOperation → Nat
  | fundCard .. | upsertControl .. | authorize .. => 1
  | enqueue employees => 2 * employees.length
  | issue settings => settings.defaultControls.length * (s.pending company).length
  | getCard _ | findCard _ | listCards | history _ | pending | setSpendingLimit .. | setPeriodLimits ..
  | blockCard .. | deactivateControl .. => 0

/-- No identifier that a call brings in collides: neither those that it draws, nor those that the pending
rows of the company hold ready for cards. -/
structure Fresh (operation : TenantOperation) : Prop where
  drawn : a.FreshFor s (operation.draws company s)
  held : ∀ r ∈ s.pending company, ∀ c ∈ s.cards, c.id ≠ r.cardId

end TenantOperation

variable {s other next : Store} {a : Ambient} {company tenant card : Uuid} {operation : TenantOperation}
  {answer : TenantAnswer}

/-! ## In the part of the company -/

theorem told_view {α : Type} {tell : α → TenantAnswer} {x y : Except Error (α × Store)}
    (hSeen : y = seenBy company x) : told tell y = seenBy company (told tell x) := by
  rw [hSeen]
  cases x with
  | error e => rfl
  | ok result => rfl

theorem readOut_view {α : Type} {tell : α → TenantAnswer} {x y : Except Error α} (hSame : y = x) :
    readOut tell (s.view company) y = seenBy company (readOut tell s x) := by
  rw [hSame]
  cases x with
  | error e => rfl
  | ok value => rfl

theorem controlsFree_of_freshFor {count : Nat} (hFresh : a.FreshFor s count) :
    s.ControlsFree company a count :=
  fun r hr _ hDrawn hId => absurd hId (hFresh.control hDrawn r hr)

namespace TenantOperation

/-- Every operation but one does to the part of the company what it does to the store. -/
theorem run_view (hWell : s.WellFormed) (hFresh : operation.Fresh company s a)
    (hNotAll : ∀ query, operation = history query → ∃ card, query.card = some card) :
    operation.run company (s.view company) a = seenBy company (operation.run company s a) := by
  have hKeyed := hWell.cardsKeyed
  have hDrawn := hFresh.drawn
  cases operation with
  | getCard card => exact readOut_view Store.getCard_view
  | findCard card => exact readOut_view (congrArg Except.ok Store.cardOf?_view)
  | listCards => exact readOut_view (congrArg Except.ok Store.listCards_view)
  | history query =>
      obtain ⟨card, hCard⟩ := hNotAll query rfl
      exact readOut_view (Store.history_view hCard)
  | pending => exact readOut_view (congrArg Except.ok Store.pending_view)
  | fundCard card amount =>
      exact told_view (Store.fundCard_view hKeyed (hDrawn.transaction Nat.one_pos))
  | setSpendingLimit card limit => exact told_view (Store.setSpendingLimit_view hKeyed)
  | setPeriodLimits card daily monthly => exact told_view (Store.setPeriodLimits_view hKeyed)
  | blockCard card reason => exact told_view (Store.blockCard_view hKeyed)
  | upsertControl card control =>
      exact told_view (Store.upsertControl_view hWell (controlsFree_of_freshFor hDrawn))
  | deactivateControl card kind => exact told_view Store.deactivateControl_view
  | authorize z r now =>
      exact told_view (Authorizer.authorize_view hKeyed (hDrawn.transaction Nat.one_pos))
  | enqueue employees =>
      exact told_view (Store.enqueue_view fun r hr i hi => hDrawn.queueRow hi r hr)
  | issue settings =>
      exact told_view (Store.issue_view hWell (controlsFree_of_freshFor hDrawn) hFresh.held)

/-- Stores that agree on a company cannot be told apart by it. -/
theorem seenBy_run (hWell : s.WellFormed) (hOtherWell : other.WellFormed)
    (hAgree : s.AgreeOn other company) (hFresh : operation.Fresh company s a)
    (hOtherFresh : operation.Fresh company other a) :
    seenBy company (operation.run company s a) = seenBy company (operation.run company other a) := by
  by_cases hAll : ∃ query, operation = history query ∧ query.card = none
  · -- the history of the whole company is the one thing that is read by the company of a transaction
    obtain ⟨query, rfl, hNone⟩ := hAll
    have hRows : s.history company query = other.history company query := by
      unfold Store.history Store.queried
      rw [hNone]
      dsimp only
      rw [hAgree.record]
    unfold run
    rw [← readOut_view rfl, ← readOut_view rfl, hAgree.view, hRows]
  · have hNotAll : ∀ query, operation = history query → ∃ card, query.card = some card := by
      intro query hHistory
      refine Option.ne_none_iff_exists'.mp fun hNone => hAll ⟨query, hHistory, hNone⟩
    rw [← run_view hWell hFresh hNotAll, ← run_view hOtherWell hOtherFresh hNotAll, hAgree.view]

/-! ## The record of the company -/

/-- The transactions that a call adds to the record of the company. -/
def booked (company : Uuid) (a : Ambient) : TenantOperation → TenantAnswer → List Transaction
  | fundCard card amount, _ => [(Store.topUp company card amount).completed (a.freshId 0) a.now a.now]
  | _, .purchase p => [p.transaction]
  | _, _ => []

/-- What a read leaves behind: the store as it was. -/
theorem eq_of_readOut {α : Type} {tell : α → TenantAnswer} {x : Except Error α}
    (hRun : readOut tell s x = .ok (answer, next)) : next = s ∧ ∃ v, answer = tell v := by
  obtain ⟨v, -, hResult⟩ := map_eq_ok_iff.mp hRun
  cases hResult
  exact ⟨rfl, v, rfl⟩

theorem told_eq_ok {α : Type} {tell : α → TenantAnswer} {x : Except Error (α × Store)}
    (hRun : told tell x = .ok (answer, next)) : ∃ v, x = .ok (v, next) ∧ answer = tell v := by
  obtain ⟨⟨v, _⟩, hResult, hTold⟩ := map_eq_ok_iff.mp hRun
  cases hTold
  exact ⟨v, hResult, rfl⟩

theorem effect_of_run (hWell : s.WellFormed) (hRun : operation.run company s a = .ok (answer, next)) :
    s.TenantEffect next company (operation.booked company a answer) := by
  have hKeyed := hWell.cardsKeyed
  unfold run at hRun
  cases operation with
  | getCard | findCard | listCards | history | pending =>
      obtain ⟨rfl, _, rfl⟩ := eq_of_readOut hRun
      exact .refl next company
  | fundCard card amount =>
      obtain ⟨c, hFund, rfl⟩ := told_eq_ok hRun
      exact Store.effect_of_fundCard hKeyed hFund
  | setSpendingLimit card limit =>
      obtain ⟨c, hSet, rfl⟩ := told_eq_ok hRun
      obtain ⟨_, -, hSetting⟩ := bind_eq_ok_iff.mp hSet
      exact Store.effect_of_setting hKeyed hSetting fun _ => rfl
  | setPeriodLimits card daily monthly =>
      obtain ⟨c, hSet, rfl⟩ := told_eq_ok hRun
      obtain ⟨_, -, hRest⟩ := bind_eq_ok_iff.mp hSet
      obtain ⟨_, -, hSetting⟩ := bind_eq_ok_iff.mp hRest
      exact Store.effect_of_setting hKeyed hSetting fun _ => rfl
  | blockCard card reason =>
      obtain ⟨c, hBlock, rfl⟩ := told_eq_ok hRun
      exact Store.effect_of_setting hKeyed hBlock fun _ => rfl
  | upsertControl card control =>
      obtain ⟨row, hUpsert, rfl⟩ := told_eq_ok hRun
      exact Store.effect_of_upsertControl hWell hUpsert
  | deactivateControl card kind =>
      obtain ⟨any, hDeactivate, rfl⟩ := told_eq_ok hRun
      exact Store.effect_of_deactivateControl hWell hDeactivate
  | authorize z r now =>
      obtain ⟨p, hAuthorize, rfl⟩ := told_eq_ok hRun
      exact Authorizer.effect_of_authorize hKeyed hAuthorize
  | enqueue employees =>
      obtain ⟨rows, hEnqueue, rfl⟩ := told_eq_ok hRun
      exact Store.effect_of_enqueue hEnqueue
  | issue settings =>
      obtain ⟨cards, hIssue, rfl⟩ := told_eq_ok hRun
      exact Store.effect_of_issue hWell hIssue

/-! ## Cards of others -/

/-- A card that the company does not have is told of as in the empty store, and nothing happens. -/
theorem run_of_foreign (hCard : operation.card? = some card) (hForeign : s.owns company card = false) :
    operation.run company s a = (operation.run company {} a).map fun result => (result.1, s) := by
  have hGet : s.getCard company card = .error (.cardNotFound card) := by
    unfold Store.getCard
    rw [Store.owns_eq_isSome, Option.isSome_eq_false_iff, Option.isNone_iff_eq_none] at hForeign
    rw [hForeign]
  cases operation with
  | listCards | pending | enqueue | issue => cases hCard
  | getCard id =>
      cases hCard
      dsimp only [run]
      rw [hGet]
      rfl
  | findCard id =>
      cases hCard
      dsimp only [run]
      rw [Store.owns_eq_isSome, Option.isSome_eq_false_iff, Option.isNone_iff_eq_none] at hForeign
      rw [hForeign]
      rfl
  | history query =>
      change query.card = some card at hCard
      dsimp only [run]
      unfold Store.history Store.queried
      rw [hCard]
      dsimp only
      rw [hGet]
      rfl
  | fundCard id amount =>
      cases hCard
      dsimp only [run]
      unfold Store.fundCard
      rw [hGet]
      cases checkAmount amount with
      | error e => rfl
      | ok u => rfl
  | setSpendingLimit id limit =>
      cases hCard
      dsimp only [run]
      unfold Store.setSpendingLimit
      rw [hGet]
      cases checkAmount limit with
      | error e => rfl
      | ok u => rfl
  | setPeriodLimits id daily monthly =>
      cases hCard
      dsimp only [run]
      unfold Store.setPeriodLimits
      rw [hGet]
      cases checkLimit daily with
      | error e => rfl
      | ok u =>
          cases checkLimit monthly with
          | error e => rfl
          | ok u => rfl
  | blockCard id reason =>
      cases hCard
      dsimp only [run]
      unfold Store.blockCard
      rw [hGet]
      rfl
  | upsertControl id control =>
      cases hCard
      dsimp only [run]
      unfold Store.upsertControl
      rw [hGet]
      cases control.validate with
      | error fault => rfl
      | ok u => rfl
  | deactivateControl id kind =>
      cases hCard
      dsimp only [run]
      unfold Store.deactivateControl
      rw [hGet]
      rfl
  | authorize z r now =>
      cases hCard
      dsimp only [run]
      unfold Authorizer.authorize Authorizer.screen
      rw [hGet]
      cases r.check company with
      | error e => rfl
      | ok u =>
          rw [ok_bind, ok_bind]
          split
          · rfl
          · rfl

theorem foreign_card (hCard : operation.card? = some card) (hForeign : s.owns company card = false) :
    operation.answer company s a = operation.answer company {} a ∧ operation.storeAfter company s a = s := by
  unfold answer storeAfter
  rw [run_of_foreign hCard hForeign]
  cases operation.run company {} a with
  | error e => exact ⟨rfl, rfl⟩
  | ok result => exact ⟨rfl, rfl⟩

/-! ## After a call -/

theorem answer_eq_of_seen
    (hSeen : seenBy company (operation.run company s a) = seenBy company (operation.run company other a)) :
    operation.answer company s a = operation.answer company other a := by
  have hAnswer : ∀ s : Store, operation.answer company s a =
      (seenBy company (operation.run company s a)).map (·.1) := by
    intro s
    unfold answer
    cases operation.run company s a with
    | error e => rfl
    | ok result => rfl
  rw [hAnswer, hAnswer, hSeen]

/-- What is seen alike is left alike: the transactions added to the record can be told from the answer. -/
theorem agreeOn_storeAfter (hWell : s.WellFormed) (hOtherWell : other.WellFormed)
    (hAgree : s.AgreeOn other company)
    (hSeen : seenBy company (operation.run company s a) = seenBy company (operation.run company other a)) :
    (operation.storeAfter company s a).AgreeOn (operation.storeAfter company other a) company := by
  unfold storeAfter
  cases hRun : operation.run company s a with
  | error e =>
      cases hOtherRun : operation.run company other a with
      | error otherError => exact hAgree
      | ok result =>
          rw [hRun, hOtherRun] at hSeen
          cases hSeen
  | ok result =>
      cases hOtherRun : operation.run company other a with
      | error e =>
          rw [hRun, hOtherRun] at hSeen
          cases hSeen
      | ok otherResult =>
          rw [hRun, hOtherRun] at hSeen
          -- the view is that of the outcomes, but the record is not part of it
          obtain ⟨hAnswer, hView⟩ := Prod.mk.inj (Except.ok.inj hSeen)
          refine ⟨hView, ?_⟩
          rw [(effect_of_run hWell hRun).record, (effect_of_run hOtherWell hOtherRun).record,
            hAgree.record, hAnswer]

theorem others_unchanged (hWell : s.WellFormed) (hOther : tenant ≠ company) :
    s.AgreeOn (operation.storeAfter company s a) tenant := by
  unfold storeAfter
  cases hRun : operation.run company s a with
  | error e => exact .refl s tenant
  | ok result => exact (effect_of_run hWell hRun).others tenant hOther

end TenantOperation

/-- Operations of a company neither tell it of other companies nor touch them. Called with the same
arguments and surroundings on two stores that agree on the company, an operation gives the same and
leaves stores that agree on the company again, and each run leaves every other company as it was. A card
that is not the company's is no different from one that does not exist anywhere. -/
theorem tenant_noninterference (operation : TenantOperation) {s other : Store} {a : Ambient}
    {company : Uuid} (hWell : s.WellFormed) (hOtherWell : other.WellFormed)
    (hAgree : s.AgreeOn other company) (hFresh : operation.Fresh company s a)
    (hOtherFresh : operation.Fresh company other a) :
    operation.answer company s a = operation.answer company other a ∧
      (operation.storeAfter company s a).AgreeOn (operation.storeAfter company other a) company ∧
      (∀ tenant, tenant ≠ company →
        s.AgreeOn (operation.storeAfter company s a) tenant ∧
          other.AgreeOn (operation.storeAfter company other a) tenant) ∧
      ∀ card, operation.card? = some card → s.owns company card = false →
        ∀ absent : Store, absent.card? card = none →
          operation.answer company s a = operation.answer company absent a ∧
            operation.storeAfter company s a = s := by
  have hSeen := TenantOperation.seenBy_run hWell hOtherWell hAgree hFresh hOtherFresh
  refine ⟨TenantOperation.answer_eq_of_seen hSeen,
    TenantOperation.agreeOn_storeAfter hWell hOtherWell hAgree hSeen, ?_, ?_⟩
  · intro tenant hOther
    exact ⟨TenantOperation.others_unchanged hWell hOther,
      TenantOperation.others_unchanged hOtherWell hOther⟩
  · intro card hCard hForeign absent hAbsent
    have hNone : absent.owns company card = false := by
      rw [Bool.eq_false_iff]
      intro hOwned
      obtain ⟨c, hc, hId, -⟩ := Store.owns_iff.mp hOwned
      exact Store.card?_eq_none_iff.mp hAbsent c hc hId
    obtain ⟨hAnswer, hStore⟩ := TenantOperation.foreign_card (a := a) hCard hForeign
    exact ⟨hAnswer.trans (TenantOperation.foreign_card hCard hNone).1.symm, hStore⟩

namespace Sample

/-- A company next door. -/
def neighbour : Uuid := .ofNat 11

/-- A card of the company next door. -/
def neighboursCard : Card :=
  { Sample.card with id := .ofNat 12, companyId := neighbour, balance := 5 }

/-- The store with the card next door, which must not be used for food. -/
def neighbourhood : Store :=
  { cards := [neighboursCard, Sample.card]
    controls :=
      [{ id := .ofNat 13, cardId := neighboursCard.id, type := ControlType.merchantCategory.name
         payload := (ControlValue.merchantCategory ⟨[], ["food"]⟩).toPayload, isActive := true
         createdAt := .epoch, updatedAt := .epoch }] }

theorem wellFormed_store : store.WellFormed where
  cardsKeyed := cardsKeyed_store
  queueKeyed := List.nodup_nil
  controlsKeyed := List.nodup_nil
  cardOfTransaction := by simp [store]
  cardOfControl := by simp [store]

theorem wellFormed_neighbourhood : neighbourhood.WellFormed where
  cardsKeyed := by
    unfold Store.CardsKeyed
    decide
  queueKeyed := List.nodup_nil
  controlsKeyed := List.nodup_singleton _
  cardOfTransaction := by simp [neighbourhood]
  cardOfControl := by simp [neighbourhood]

end Sample

/-- With and without a company next door a purchase goes through alike, and that company stays as it is;
its card is told to be as unknown as where it does not exist. -/
theorem tenant_noninterference_of_sample :
    let purchase : TenantOperation := .authorize {} Sample.request .epoch
    let block : TenantOperation := .blockCard Sample.neighboursCard.id none
    let answer := fun (operation : TenantOperation) (s : Store) =>
      operation.answer Sample.company s Sample.ambient
    (∃ p, answer purchase Sample.store = .ok (.purchase p) ∧
        answer purchase Sample.neighbourhood = .ok (.purchase p)) ∧
      Sample.neighbourhood.AgreeOn
        (purchase.storeAfter Sample.company Sample.neighbourhood Sample.ambient) Sample.neighbour ∧
      answer block Sample.neighbourhood = answer block Sample.store := by
  intro purchase block answer
  have hAgree : Sample.store.AgreeOn Sample.neighbourhood Sample.company := ⟨rfl, rfl⟩
  have hFresh : purchase.Fresh Sample.company Sample.store Sample.ambient :=
    ⟨by decide +kernel, by decide +kernel⟩
  have hNextFresh : purchase.Fresh Sample.company Sample.neighbourhood Sample.ambient :=
    ⟨by decide +kernel, by decide +kernel⟩
  have hBlockFresh : block.Fresh Sample.company Sample.store Sample.ambient :=
    ⟨by decide +kernel, by decide +kernel⟩
  have hNextBlockFresh : block.Fresh Sample.company Sample.neighbourhood Sample.ambient :=
    ⟨by decide +kernel, by decide +kernel⟩
  obtain ⟨hAnswer, -, hOthers, -⟩ := tenant_noninterference purchase Sample.wellFormed_store
    Sample.wellFormed_neighbourhood hAgree hFresh hNextFresh
  obtain ⟨-, -, -, hForeign⟩ := tenant_noninterference block Sample.wellFormed_neighbourhood
    Sample.wellFormed_store hAgree.symm hNextBlockFresh hBlockFresh
  refine ⟨?_, (hOthers Sample.neighbour (by decide)).2, ?_⟩
  · obtain ⟨⟨p, next⟩, hRun⟩ := exists_ok_of_isSome
      (x := Authorizer.authorize {} Sample.store Sample.ambient Sample.company Sample.request .epoch)
      (by decide +kernel)
    have hGiven : answer purchase Sample.store = .ok (.purchase p) := by
      change (told .purchase (Authorizer.authorize _ _ _ _ _ _)).map _ = _
      rw [hRun]
      rfl
    exact ⟨p, hGiven, hAnswer.symm.trans hGiven⟩
  · exact (hForeign Sample.neighboursCard.id rfl (by decide) Sample.store (by decide +kernel)).1

end CardLedger
