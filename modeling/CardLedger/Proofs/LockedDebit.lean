import CardLedger.Proofs.Interleaving

/-!
# The locked debit decides

Of interleaved purchases each is decided at its commit, by the balance of that moment and by nothing
that it read before. The invariant has a part for the balances, which is about the history as a
whole, and a part for each submission, which later events of others leave alone: they may add rows,
but never under an identifier that is in use.
-/

namespace CardLedger

namespace Traffic

variable {ι : Type} [DecidableEq ι] {s next : Store} {p : ι → Submission} {w later : Traffic ι}
  {i j : ι} {stage : Stage} {a : Ambient} {card : Card} {advisories : List Advisory}

@[simp]
theorem turn_store : (w.turn i stage).store = w.store := rfl

@[simp]
theorem turn_purchases : (w.turn i stage).purchases j = w.purchases j := rfl

@[simp]
theorem turn_stage_self : (w.turn i stage).stage i = stage := by
  simp [turn]

theorem turn_stage_other (hOther : j ≠ i) : (w.turn i stage).stage j = w.stage j := by
  simp [turn, hOther]

theorem record_purchases {m : Movement ι} :
    (w.record next m).purchases i = w.purchases i ++ [m].filterMap (Movement.purchaseOf? i) :=
  List.filterMap_append

/-! ## What is known of a submission -/

/-- The row of a submission that was let through. -/
structure IsRowOf (p : Submission) (t : Transaction) : Prop where
  card : t.cardId = p.request.card
  type : t.type = .purchase
  amount : t.amount = p.request.amount
  settled : t.Settled

/-- What is known of a submission at each of its stages: it is in the history once if it has been let
through and else not at all. -/
def Known (s : Store) (p : Submission) (i : ι) (w : Traffic ι) : Prop :=
  match w.stage i with
  | .waiting => w.purchases i = []
  | .passed card _ =>
      w.purchases i = [] ∧ card.id = p.request.card ∧ isAmount p.request.amount = true ∧
        card.id ∈ s.cards.map (·.id)
  | .ended (.error _) => w.purchases i = []
  | .ended (.ok purchase) =>
      w.purchases i = [purchase.transaction] ∧ IsRowOf p purchase.transaction ∧
        w.store.transactions.filter (fun t => t.id == purchase.transaction.id) =
          [purchase.transaction]

/-- What others do does not touch a submission as long as their rows have identifiers of their own. -/
theorem known_of_same {q : Submission} (hKnown : Known s q i w) (rows : List Transaction)
    (hStage : later.stage i = w.stage i) (hPurchases : later.purchases i = w.purchases i)
    (hRows : later.store.transactions = w.store.transactions ++ rows)
    (hFresh : ∀ t ∈ rows, w.store.IsFresh t.id) : Known s q i later := by
  unfold Known at *
  rw [hStage, hPurchases]
  cases hNow : w.stage i with
  | waiting =>
      rw [hNow] at hKnown
      exact hKnown
  | passed card advisories =>
      rw [hNow] at hKnown
      exact hKnown
  | ended outcome =>
      rw [hNow] at hKnown
      cases outcome with
      | error e => exact hKnown
      | ok purchase =>
          -- the row is in the record, hence a fresh identifier is not its own
          obtain ⟨hOnce, hRow, hFound⟩ := hKnown
          refine ⟨hOnce, hRow, ?_⟩
          have hMem : purchase.transaction ∈ w.store.transactions := by
            have hSingle : purchase.transaction ∈
                w.store.transactions.filter fun t => t.id == purchase.transaction.id := by
              rw [hFound]
              exact List.mem_singleton_self _
            exact List.mem_of_mem_filter hSingle
          have hNone : rows.filter (fun t => t.id == purchase.transaction.id) = [] := by
            rw [List.filter_eq_nil_iff]
            intro t ht hSame
            exact hFresh t ht _ hMem (eq_of_beq hSame).symm
          rw [hRows, List.filter_append, hFound, hNone, List.append_nil]

/-- What is known of interleaved purchases at all times. -/
structure Invariant (s : Store) (p : ι → Submission) (w : Traffic ι) : Prop where
  balanced : Balanced s w
  known : ∀ i, Known s (p i) i w

theorem invariant_start (hKeyed : s.CardsKeyed) (hNonneg : ∀ c ∈ s.cards, 0 ≤ c.balance) :
    Invariant s p (start s) :=
  ⟨balanced_start hKeyed hNonneg, fun _ => rfl⟩

theorem invariant_turn (hState : Invariant s p w) (hKnown : Known s (p i) i (w.turn i stage)) :
    Invariant s p (w.turn i stage) := by
  refine ⟨hState.balanced.turn i stage, fun j => ?_⟩
  by_cases hSelf : j = i
  · rw [hSelf]
    exact hKnown
  · exact known_of_same (hState.known j) [] (turn_stage_other hSelf) rfl (List.append_nil _).symm
      (by simp)

theorem known_of_screen (hState : Invariant s p w) (hWaiting : w.stage i = .waiting)
    (hScreen : (p i).screen w.store = .ok (card, advisories)) :
    Known s (p i) i (w.turn i (.passed card advisories)) := by
  obtain ⟨_, hCheck, hRead⟩ := bind_eq_ok_iff.mp hScreen
  obtain ⟨hCard, -⟩ := Authorizer.screen_eq_ok hRead
  obtain ⟨hMem, hId, -⟩ := Store.cardOf?_eq_some hCard
  have hNone : w.purchases i = [] := by
    simpa [Known, hWaiting] using hState.known i
  have hKept : card.id ∈ s.cards.map (·.id) := by
    rw [← hState.balanced.ids]
    exact List.mem_map_of_mem hMem
  unfold Known
  rw [turn_stage_self]
  exact ⟨hNone, hId, PurchaseRequest.isAmount_of_check hCheck, hKept⟩

theorem invariant_screen (hState : Invariant s p w) (i : ι) :
    Invariant s p (step p w (.screen i)) := by
  unfold step
  dsimp only
  cases hStage : w.stage i with
  | waiting =>
      dsimp only
      cases hScreen : (p i).screen w.store with
      | error e =>
          refine invariant_turn hState ?_
          simpa [Known, hStage] using hState.known i
      | ok found => exact invariant_turn hState (known_of_screen hState hStage hScreen)
  | passed card advisories => exact hState
  | ended outcome => exact hState

theorem purchases_of_passed (hState : Invariant s p w) (hPassed : w.stage i = .passed card advisories) :
    w.purchases i = [] ∧ card.id = (p i).request.card ∧ isAmount (p i).request.amount = true ∧
      card.id ∈ s.cards.map (·.id) := by
  have hKnown := hState.known i
  unfold Known at hKnown
  rw [hPassed] at hKnown
  exact hKnown

theorem purchases_of_committed {purchase : AuthorizedPurchase} (hState : Invariant s p w)
    (hEnded : w.stage i = .ended (.ok purchase)) :
    w.purchases i = [purchase.transaction] ∧ IsRowOf (p i) purchase.transaction ∧
      w.store.transactions.filter (fun t => t.id == purchase.transaction.id) =
        [purchase.transaction] := by
  have hKnown := hState.known i
  unfold Known at hKnown
  rw [hEnded] at hKnown
  exact hKnown

theorem purchases_of_refused {e : Error} (hState : Invariant s p w)
    (hEnded : w.stage i = .ended (.error e)) : w.purchases i = [] := by
  have hKnown := hState.known i
  unfold Known at hKnown
  rw [hEnded] at hKnown
  exact hKnown

/-- A commit that goes through books the transaction that it returns, once. -/
theorem invariant_committed {purchase : AuthorizedPurchase} (hState : Invariant s p w)
    (hPassed : w.stage i = .passed card advisories)
    (hCommit : (p i).commit w.store a.solitary card advisories = .ok (purchase, next)) :
    Invariant s p
      ((w.record next (.purchase i purchase.transaction)).turn i (.ended (.ok purchase))) := by
  obtain ⟨hNone, hId, -, -⟩ := purchases_of_passed hState hPassed
  have hRow : purchase.transaction = (p i).request.row card a.solitary (p i).now := by
    obtain ⟨-, -, held, c, spend, -, -, -, -, hResult⟩ :=
      Authorizer.commit_eq_ok hState.balanced.keyed hCommit
    cases hResult
    rfl
  have hBooking : Booking w.store next purchase.transaction := by
    rw [hRow]
    exact booking_of_commit hState.balanced.keyed rfl hCommit
  refine ⟨(hState.balanced.book hBooking rfl fun _ _ => rfl).turn i _, fun j => ?_⟩
  by_cases hSelf : j = i
  · -- its own part: the row is added under an identifier that nobody had
    subst hSelf
    have hUnused :
        w.store.transactions.filter (fun t => t.id == purchase.transaction.id) = [] := by
      rw [List.filter_eq_nil_iff]
      intro t ht hSame
      exact hBooking.fresh t ht (eq_of_beq hSame)
    unfold Known
    rw [turn_stage_self]
    refine ⟨?_, ?_, ?_⟩
    · rw [turn_purchases, record_purchases, hNone]
      simp [Movement.purchaseOf?]
    · exact ⟨by rw [hRow]; exact hId, by rw [hRow]; rfl, by rw [hRow]; rfl, hBooking.settled⟩
    · rw [turn_store, record_store, hBooking.record, List.filter_append, hUnused]
      simp
  · -- the parts of the others
    refine known_of_same (hState.known j) [purchase.transaction] (turn_stage_other hSelf) ?_
      hBooking.record (by simpa using hBooking.fresh)
    rw [turn_purchases, record_purchases]
    simp [Movement.purchaseOf?, Ne.symm hSelf]

theorem invariant_commit (hState : Invariant s p w) (i : ι) (a : Ambient) :
    Invariant s p (step p w (.commit i a)) := by
  unfold step
  dsimp only
  cases hStage : w.stage i with
  | waiting => exact hState
  | passed card advisories =>
      dsimp only
      cases hCommit : (p i).commit w.store a.solitary card advisories with
      | error e =>
          refine invariant_turn hState ?_
          unfold Known
          rw [turn_stage_self]
          exact (purchases_of_passed hState hStage).1
      | ok result => exact invariant_committed hState hStage hCommit
  | ended outcome => exact hState

theorem invariant_fund (hState : Invariant s p w) (a : Ambient) (company id : Uuid) (amount : Float) :
    Invariant s p (step p w (.fund a company id amount)) := by
  unfold step
  dsimp only
  cases hFund : w.store.fundCard a.solitary company id amount with
  | error e => exact hState
  | ok result =>
      have hBooking := booking_of_fundCard hState.balanced.keyed rfl hFund
      refine ⟨hState.balanced.book hBooking rfl fun _ _ => rfl, fun j => ?_⟩
      refine known_of_same (hState.known j) [_] rfl ?_ hBooking.record
        (by simpa using hBooking.fresh)
      exact record_purchases.trans (by simp [Movement.purchaseOf?])

theorem invariant_adjust (hState : Invariant s p w) (change : BalanceChange) :
    Invariant s p (step p w (.adjust change)) := by
  refine ⟨hState.balanced.adjust change, fun j => ?_⟩
  refine known_of_same (hState.known j) [] rfl ?_ (List.append_nil _).symm (by simp)
  exact record_purchases.trans (by simp [Movement.purchaseOf?])

theorem invariant_step (hState : Invariant s p w) (e : TrafficEvent ι) :
    Invariant s p (step p w e) := by
  cases e with
  | screen i => exact invariant_screen hState i
  | commit i a => exact invariant_commit hState i a
  | fund a company card amount => exact invariant_fund hState a company card amount
  | adjust change => exact invariant_adjust hState change

theorem invariant_run (hState : Invariant s p w) (events : List (TrafficEvent ι)) :
    Invariant s p (run p w events) := by
  induction events generalizing w with
  | nil => exact hState
  | cons e rest ih => exact ih (invariant_step hState e)

/-! ## What decides -/

theorem card?_of_passed (hState : Invariant s p w) (hPassed : w.stage i = .passed card advisories) :
    ∃ c, w.store.card? (p i).request.card = some c := by
  obtain ⟨-, hId, -, hMem⟩ := purchases_of_passed hState hPassed
  rw [← hState.balanced.ids] at hMem
  obtain ⟨c, hc, hSame⟩ := List.mem_map.mp hMem
  exact ⟨c, (Store.card?_eq_some_iff hState.balanced.keyed).mpr ⟨hc, hSame.trans hId⟩⟩

variable {c : Card}

theorem step_commit_of_short (hState : Invariant s p w)
    (hPassed : w.stage i = .passed card advisories) (hFresh : w.store.IsFresh (a.freshId 0))
    (hCard : w.store.card? (p i).request.card = some c) (hShort : ¬ (p i).request.amount ≤ c.balance) :
    step p w (.commit i a) = w.turn i (.ended (.error
      (.commitConflict (p i).request.card c.balance (p i).request.amount))) := by
  obtain ⟨-, hId, hAmount, -⟩ := purchases_of_passed hState hPassed
  rw [← hId] at hCard ⊢
  have hCommit : (p i).commit w.store a.solitary card advisories =
      .error (.commitConflict card.id c.balance (p i).request.amount) :=
    Authorizer.commit_of_short hState.balanced.keyed hAmount hFresh (by simp [hCard])
      (Store.overwriteBalance_of_alone rfl) hCard (.inl hShort)
  unfold step
  dsimp only
  rw [hPassed]
  dsimp only
  rw [hCommit]

theorem step_commit_of_covered (hState : Invariant s p w)
    (hPassed : w.stage i = .passed card advisories) (hFresh : w.store.IsFresh (a.freshId 0))
    (hCard : w.store.card? (p i).request.card = some c) (hCovered : (p i).request.amount ≤ c.balance)
    (hWindows : (p i).WindowsResolve) :
    ∃ purchase, (step p w (.commit i a)).stage i = .ended (.ok purchase) := by
  obtain ⟨-, hId, hAmount, -⟩ := purchases_of_passed hState hPassed
  obtain ⟨day, month, hDay, hMonth⟩ := hWindows
  rw [← hId] at hCard
  obtain ⟨spend, hSpend⟩ : ∃ spend, (p i).authorizer.snapshot
      (w.store.withPurchase a.solitary card (p i).request (p i).now) card.id c (p i).now = .ok spend :=
    ⟨_, Authorizer.snapshot_of_windows card.id hDay hMonth⟩
  have hCommit : (p i).commit w.store a.solitary card advisories =
      .ok (Authorizer.receipt a.solitary card c (p i).request (p i).now spend advisories,
        w.store.withPurchase a.solitary card (p i).request (p i).now) := by
    have hNew : w.store.IsFresh (a.solitary.freshId 0) := hFresh
    have hAlone : w.store.overwriteBalance a.solitary.interference card.id = .ok w.store :=
      Store.overwriteBalance_of_alone rfl
    unfold Submission.commit
    rw [Authorizer.commit_of_covered hState.balanced.keyed hAmount hNew (by simp [hCard]) hAlone hCard
      hCovered rfl, hSpend]
    rfl
  refine ⟨Authorizer.receipt a.solitary card c (p i).request (p i).now spend advisories, ?_⟩
  unfold step
  dsimp only
  rw [hPassed]
  dsimp only
  rw [hCommit]
  exact turn_stage_self

end Traffic

/-- However the two steps of any number of purchases are interleaved with each other, with funds being
loaded and with other changes of balances: a purchase that has passed the stages before its commit is
let through if and only if the balance at its commit covers it, and else is told that balance and
leaves no row; one that was let through has one row and one place in the history; no balance is
negative, and each is the first one with the movements of the history in their order. -/
theorem locked_debit_decides {ι : Type} [DecidableEq ι] (p : ι → Submission) (s : Store)
    (hKeyed : s.CardsKeyed) (hNonneg : ∀ c ∈ s.cards, 0 ≤ c.balance)
    (events : List (TrafficEvent ι)) :
    let w := Traffic.run p (.start s) events
    (∀ i a card advisories, w.stage i = .passed card advisories → w.store.IsFresh (a.freshId 0) →
      ∃ c, w.store.card? (p i).request.card = some c ∧
        ((p i).WindowsResolve →
          ((∃ purchase, (Traffic.step p w (.commit i a)).stage i = .ended (.ok purchase)) ↔
            (p i).request.amount ≤ c.balance)) ∧
        (¬ (p i).request.amount ≤ c.balance →
          (Traffic.step p w (.commit i a)).stage i = .ended (.error
            (.commitConflict (p i).request.card c.balance (p i).request.amount)) ∧
          (Traffic.step p w (.commit i a)).store = w.store)) ∧
    (∀ i purchase, w.stage i = .ended (.ok purchase) →
      w.purchases i = [purchase.transaction] ∧ Traffic.IsRowOf (p i) purchase.transaction ∧
        w.store.transactions.filter (fun t => t.id == purchase.transaction.id) =
          [purchase.transaction]) ∧
    (∀ i e, w.stage i = .ended (.error e) → w.purchases i = []) ∧
    w.store.transactions = s.transactions ++ w.history.filterMap Movement.row? ∧
    (∀ c ∈ w.store.cards, 0 ≤ c.balance) ∧
    ∀ id, (w.store.card? id).map (·.balance) = (s.card? id).map fun c =>
      w.history.foldl (Movement.balanceAfter id) c.balance := by
  intro w
  have hState : Traffic.Invariant s p w :=
    Traffic.invariant_run (Traffic.invariant_start hKeyed hNonneg) events
  refine ⟨?_, ?_, ?_, hState.balanced.record, hState.balanced.nonneg, hState.balanced.balances⟩
  · intro i a card advisories hPassed hFresh
    obtain ⟨c, hCard⟩ := Traffic.card?_of_passed hState hPassed
    have hConflict := Traffic.step_commit_of_short hState hPassed hFresh hCard
    refine ⟨c, hCard, fun hWindows => ⟨?_, ?_⟩, fun hShort => ?_⟩
    · -- a short balance would have ended in a conflict instead
      rintro ⟨purchase, hEnded⟩
      by_contra hShort
      rw [hConflict hShort, Traffic.turn_stage_self] at hEnded
      cases hEnded
    · intro hCovered
      exact Traffic.step_commit_of_covered hState hPassed hFresh hCard hCovered hWindows
    · rw [hConflict hShort]
      exact ⟨Traffic.turn_stage_self, rfl⟩
  · intro i purchase hEnded
    exact Traffic.purchases_of_committed hState hEnded
  · intro i e hEnded
    exact Traffic.purchases_of_refused hState hEnded

/-- Two purchases of 60 with a card that holds 100 are both looked at before either is committed; the
second to commit finds 40. -/
theorem locked_debit_decides_of_sample :
    let p : Bool → Submission := fun _ =>
      ⟨{}, Sample.company, { Sample.request with amount := 60 }, .epoch⟩
    let w := Traffic.run p (.start Sample.store)
      [.screen false, .screen true, .commit false Sample.ambient]
    Sample.store.CardsKeyed ∧ (∀ c ∈ Sample.store.cards, 0 ≤ c.balance) ∧
      (Traffic.step p w (.commit true { Sample.ambient with freshId := .ofNat })).stage true =
        .ended (.error (.commitConflict Sample.card.id 40 60)) := by
  intro p w
  have hNonneg : ∀ c ∈ Sample.store.cards, 0 ≤ c.balance := by
    decide
  have hPassed : (w.stage true).isPassed = true := by
    decide +kernel
  have hFresh : w.store.IsFresh (.ofNat 0) := by
    unfold Store.IsFresh
    decide +kernel
  have hBalance : (w.store.card? Sample.card.id).map (·.balance) = some 40 := by
    decide +kernel
  obtain ⟨hDecided, -⟩ := locked_debit_decides p Sample.store Sample.cardsKeyed_store hNonneg
    [.screen false, .screen true, .commit false Sample.ambient]
  obtain ⟨card, advisories, hStage⟩ := Stage.exists_of_isPassed hPassed
  obtain ⟨c, hCard, -, hConflict⟩ := hDecided true { Sample.ambient with freshId := .ofNat } card
    advisories hStage hFresh
  have hForty : c.balance = 40 := by
    rw [show w.store.card? Sample.card.id = some c from hCard] at hBalance
    exact Option.some.inj hBalance
  refine ⟨Sample.cardsKeyed_store, hNonneg, ?_⟩
  rw [(hConflict (by rw [hForty]; decide)).1, hForty]
  rfl

end CardLedger
