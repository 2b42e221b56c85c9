import CardLedger.Proofs.Caps
import CardLedger.Proofs.Overflow

/-!
# Finite balances

Every amount that is booked is finite, but what the amounts come to is not checked. A balance stays finite
exactly as long as no top-up takes it to the bound of the finite numbers, and once it is infinite it stays so:
every purchase is covered and none takes anything off. With top-ups of at most `2 ^ 971` it takes at least
`2 ^ 53` of them.

The record of a card tells which of these it is. It is a list of bookings, each covered by what the ones
before it came to, and the facts about such lists are proved by induction on them, with the balance that
they start from left open.
-/

namespace CardLedger

open Binary64

/-! ## Bookings one after the other -/

/-- What transactions come to when they are booked one after the other onto a balance. -/
def booked (balance : Float) (rows : List Transaction) : Float :=
  rows.foldl (fun balance t => t.balanceAfter balance) balance

/-- Each transaction is covered by what the ones before it come to. -/
def CoveredFrom (balance : Float) : List Transaction → Prop
  | [] => True
  | t :: rest => t.CoveredBy balance ∧ CoveredFrom (t.balanceAfter balance) rest

/-- A top-up that takes a balance to the bound of the finite numbers. -/
def Transaction.Overflows (t : Transaction) (balance : Float) : Prop :=
  t.type = .charge ∧ overflowBound ≤ toRat balance + toRat t.amount

/-- Some top-up takes what the transactions before it come to, still finite, to the bound. -/
def OverflowsFrom (balance : Float) (rows : List Transaction) : Prop :=
  ∃ earlier t later, rows = earlier ++ t :: later ∧ (booked balance earlier).isFinite = true ∧
    t.Overflows (booked balance earlier)

/-- The number of top-ups among transactions. -/
def topUps (rows : List Transaction) : Nat :=
  rows.countP fun t => t.type = .charge

variable {balance : Float} {t : Transaction} {rows more : List Transaction}

theorem booked_cons : booked balance (t :: rows) = booked (t.balanceAfter balance) rows := rfl

theorem booked_append : booked balance (rows ++ more) = booked (booked balance rows) more :=
  List.foldl_append

theorem CoveredFrom.append (hRows : CoveredFrom balance rows) (hMore : CoveredFrom (booked balance rows) more) :
    CoveredFrom balance (rows ++ more) := by
  induction rows generalizing balance with
  | nil => exact hMore
  | cons t rest ih => exact ⟨hRows.1, ih hRows.2 hMore⟩

namespace Transaction

theorem balanceAfter_of_charge (hType : t.type = .charge) : t.balanceAfter balance = balance + t.amount := by
  unfold balanceAfter
  rw [hType]

theorem balanceAfter_of_purchase (hType : t.type = .purchase) :
    t.balanceAfter balance = balance - t.amount := by
  unfold balanceAfter
  rw [hType]

/-- A covered transaction leaves a finite balance unless it is a top-up to the bound or beyond. -/
theorem CoveredBy.isFinite_balanceAfter_iff (hCovered : t.CoveredBy balance) (hFinite : balance.isFinite = true)
    (hNonneg : 0 ≤ balance) : (t.balanceAfter balance).isFinite = true ↔ ¬ t.Overflows balance := by
  obtain ⟨hAmount, hPos⟩ := isAmount_iff.mp hCovered.amount
  unfold Overflows
  cases hType : t.type with
  | charge =>
      rw [balanceAfter_of_charge hType, isFinite_add_iff hFinite hNonneg hAmount hPos]
      simp
  | purchase =>
      rw [balanceAfter_of_purchase hType]
      exact iff_of_true (isFinite_sub hFinite hAmount hPos (hCovered.covered hType)).1 (by simp)

/-- Nothing that is booked changes an infinite balance. -/
theorem balanceAfter_inf (hAmount : isAmount t.amount = true) : t.balanceAfter Float.inf = Float.inf := by
  obtain ⟨hFinite, -⟩ := isAmount_iff.mp hAmount
  cases hType : t.type with
  | charge => rw [balanceAfter_of_charge hType, inf_add hFinite]
  | purchase => rw [balanceAfter_of_purchase hType, inf_sub hFinite]

end Transaction

theorem booked_inf (hAmounts : ∀ t ∈ rows, isAmount t.amount = true) : booked Float.inf rows = Float.inf := by
  induction rows with
  | nil => rfl
  | cons t rest ih =>
      rw [booked_cons, Transaction.balanceAfter_inf (hAmounts t (by simp))]
      exact ih fun u hu => hAmounts u (by simp [hu])

theorem overflowsFrom_cons (hFinite : balance.isFinite = true) :
    OverflowsFrom balance (t :: rows) ↔ t.Overflows balance ∨ OverflowsFrom (t.balanceAfter balance) rows := by
  constructor
  · rintro ⟨earlier, u, later, hRows, hBefore, hOver⟩
    cases earlier with
    | nil =>
        obtain ⟨rfl, -⟩ := List.cons.inj hRows
        exact .inl hOver
    | cons v rest =>
        obtain ⟨rfl, hRest⟩ := List.cons.inj hRows
        exact .inr ⟨rest, u, later, hRest, hBefore, hOver⟩
  · rintro (hOver | ⟨earlier, u, later, rfl, hBefore, hOver⟩)
    · exact ⟨[], t, rows, rfl, hFinite, hOver⟩
    · exact ⟨t :: earlier, u, later, rfl, hBefore, hOver⟩

theorem CoveredFrom.isAmount (hCovered : CoveredFrom balance rows) : ∀ t ∈ rows, isAmount t.amount = true := by
  induction rows generalizing balance with
  | nil => simp
  | cons t rest ih =>
      intro u hu
      rcases List.mem_cons.mp hu with rfl | hRest
      · exact hCovered.1.amount
      · exact ih hCovered.2 u hRest

/-- Covered transactions come to a finite balance exactly if no top-up among them overflows. -/
theorem CoveredFrom.isFinite_booked_iff (hCovered : CoveredFrom balance rows) (hFinite : balance.isFinite = true)
    (hNonneg : 0 ≤ balance) : (booked balance rows).isFinite = true ↔ ¬ OverflowsFrom balance rows := by
  induction rows generalizing balance with
  | nil => exact iff_of_true hFinite (by simp [OverflowsFrom])
  | cons t rest ih =>
      have hNext := hCovered.1.balanceAfter_nonneg hNonneg
      have hStep := hCovered.1.isFinite_balanceAfter_iff hFinite hNonneg
      rw [booked_cons, overflowsFrom_cons hFinite, not_or]
      by_cases hOver : t.Overflows balance
      · -- from here on the balance is infinite
        have hInfinite : t.balanceAfter balance = Float.inf := by
          by_contra hOther
          exact hStep.mp ((isFinite_iff_ne_inf hNext).mpr hOther) hOver
        rw [hInfinite, booked_inf hCovered.2.isAmount]
        exact iff_of_false (by decide) fun hNone => hNone.1 hOver
      · rw [ih hCovered.2 (hStep.mpr hOver) hNext]
        simp [hOver]

/-- Fewer than `2 ^ 53` top-ups, none of them above `2 ^ 971`, come to a finite balance. -/
theorem CoveredFrom.toRat_booked_le {k : Nat} (hCovered : CoveredFrom balance rows)
    (hFinite : balance.isFinite = true) (hNonneg : 0 ≤ balance) (hBalance : toRat balance ≤ value k 971)
    (hSmall : ∀ t ∈ rows, t.type = .charge → toRat t.amount ≤ value 1 971) (hFew : k + topUps rows < 2 ^ 53) :
    (booked balance rows).isFinite = true ∧ toRat (booked balance rows) ≤ value (k + topUps rows) 971 := by
  induction rows generalizing balance k with
  | nil => exact ⟨hFinite, hBalance⟩
  | cons t rest ih =>
      obtain ⟨hAmount, hPos⟩ := isAmount_iff.mp hCovered.1.amount
      have hNext := hCovered.1.balanceAfter_nonneg hNonneg
      have hRest : ∀ u ∈ rest, u.type = .charge → toRat u.amount ≤ value 1 971 :=
        fun u hu => hSmall u (List.mem_cons_of_mem t hu)
      rw [booked_cons]
      cases hType : t.type with
      | charge =>
          have hCount : topUps (t :: rest) = topUps rest + 1 := by
            simp [topUps, hType]
          rw [hCount] at hFew ⊢
          obtain ⟨hStill, hLe⟩ := add_le_multiple hFinite hNonneg hAmount hPos hBalance
            (hSmall t List.mem_cons_self hType) (by omega)
          rw [← Transaction.balanceAfter_of_charge hType] at hStill hLe
          have hAll := ih hCovered.2 hStill hNext hLe hRest (by omega)
          rwa [Nat.add_right_comm] at hAll
      | purchase =>
          have hCount : topUps (t :: rest) = topUps rest := by
            simp [topUps, hType]
          rw [hCount] at hFew ⊢
          obtain ⟨hStill, hLe⟩ := isFinite_sub hFinite hAmount hPos (hCovered.1.covered hType)
          rw [← Transaction.balanceAfter_of_purchase hType] at hStill hLe
          exact ih hCovered.2 hStill hNext (hLe.trans hBalance) hRest hFew

/-! ## The record of a card -/

variable {s next : Store} {card : Uuid}

theorem Store.recordedBalance_eq_booked : s.recordedBalance card = booked 0 (s.transactionsOfCard card) := rfl

/-- Each card is covered booking by booking, and its balance is what its record comes to. -/
structure CoveredThroughout (s : Store) : Prop where
  reconciled : Reconciled s
  covered : ∀ card, CoveredFrom 0 (s.transactionsOfCard card)

namespace CoveredThroughout

theorem step (hState : CoveredThroughout s) (hChange : LedgerChange s next) : CoveredThroughout next where
  reconciled := hState.reconciled.step hChange
  covered := by
    intro card
    have hCovered := hState.covered card
    unfold Store.transactionsOfCard at *
    cases hChange with
    | kept hCards hRecord => rwa [hRecord]
    | revised id change hRevision hCards hRecord => rwa [hRecord]
    | issued new hEmpty hKeyed hCards hRecord => rwa [hRecord]
    | booked t hBooking =>
        obtain ⟨c, change, hCard, hCoveredNow, -⟩ := hBooking.cards
        rw [hBooking.record, List.filter_append]
        refine hCovered.append ?_
        by_cases hOwner : t.cardId = card
        · -- the balance that covers the new transaction is the one that the record tells
          obtain ⟨hc, hId⟩ := Store.mem_of_card? hCard
          have hBalance := hState.reconciled.balanced c hc
          rw [hBalance, hId, hOwner] at hCoveredNow
          rw [List.filter_cons_of_pos (by simpa using hOwner)]
          exact ⟨hCoveredNow, trivial⟩
        · rw [List.filter_cons_of_neg (by simpa using hOwner)]
          trivial

theorem run (calls : List Call) : CoveredThroughout (Store.run {} calls) := by
  refine Store.run_preserves ?_ ⟨.empty, fun _ => trivial⟩ calls
  intro old next call hOld hApply
  exact hOld.step (ledgerChange_of_apply hOld.reconciled.keyed call.alone hApply)

theorem isFinite_balance_iff (hState : CoveredThroughout s) {c : Card} (hc : c ∈ s.cards) :
    c.balance.isFinite = true ↔ ¬ OverflowsFrom 0 (s.transactionsOfCard c.id) := by
  rw [hState.reconciled.balanced c hc, Store.recordedBalance_eq_booked]
  exact (hState.covered c.id).isFinite_booked_iff rfl (by decide)

theorem isFinite_balance_of_few (hState : CoveredThroughout s) {c : Card} (hc : c ∈ s.cards)
    (hSmall : ∀ t ∈ s.transactionsOfCard c.id, t.type = .charge → toRat t.amount ≤ 2 ^ 971)
    (hFew : topUps (s.transactionsOfCard c.id) < 2 ^ 53) : c.balance.isFinite = true := by
  have hPower : value 1 971 = 2 ^ 971 := by
    unfold value
    rw [Nat.cast_one, one_mul]
    exact zpow_natCast 2 971
  rw [hState.reconciled.balanced c hc, Store.recordedBalance_eq_booked]
  refine ((hState.covered c.id).toRat_booked_le (k := 0) rfl (by decide) (value_nonneg 0 971) ?_ ?_).1
  · intro t ht hType
    rw [hPower]
    exact hSmall t ht hType
  · rwa [Nat.zero_add]

/-- A balance that is infinite stays so in every run from then on. -/
theorem balance_inf_of_run (hState : CoveredThroughout s) {c d : Card} (hc : c ∈ s.cards)
    (hInfinite : c.balance = Float.inf) {calls : List Call} (hLater : CoveredThroughout (s.run calls))
    (hd : d ∈ (s.run calls).cards) (hSame : d.id = c.id) : d.balance = Float.inf := by
  obtain ⟨rest, hRest⟩ := (record_prefix_run hState.reconciled calls).filter fun t => t.cardId == c.id
  have hRecord : (s.run calls).transactionsOfCard c.id = s.transactionsOfCard c.id ++ rest := hRest.symm
  have hBefore : booked 0 (s.transactionsOfCard c.id) = Float.inf := by
    rw [← Store.recordedBalance_eq_booked, ← hState.reconciled.balanced c hc, hInfinite]
  rw [hLater.reconciled.balanced d hd, hSame, Store.recordedBalance_eq_booked, hRecord, booked_append, hBefore]
  refine booked_inf fun t ht => (hLater.covered c.id).isAmount t ?_
  rw [hRecord]
  exact List.mem_append_right _ ht

end CoveredThroughout

/-- Of a card whose balance is infinite every debit is covered, and none takes anything off. -/
theorem Store.debit_of_inf {a : Ambient} {amount : Float} {c : Card} (hKeyed : s.CardsKeyed) (hc : c ∈ s.cards)
    (hInfinite : c.balance = Float.inf) (hAmount : isAmount amount = true)
    (hKept : a.interference.cardUpdatesLost = false) :
    ∃ after, s.debit a c.id amount = .ok ({ c with updatedAt := a.now }, after) := by
  obtain ⟨hFinite, -⟩ := isAmount_iff.mp hAmount
  have hSame : c.debited amount a.now = { c with updatedAt := a.now } := by
    unfold Card.debited
    rw [hInfinite, inf_sub hFinite, ← hInfinite]
  have hDebit := Store.debit_of_covered hKeyed hAmount ((Store.card?_eq_some_iff hKeyed).mpr ⟨hc, rfl⟩)
    (hInfinite ▸ le_inf hFinite) hKept
  rw [hSame] at hDebit
  exact ⟨_, hDebit⟩

/-- A balance is finite exactly as long as no top-up in its record takes a finite balance to the bound, in
particular with fewer than `2 ^ 53` top-ups of at most `2 ^ 971`. Otherwise it is the infinity: it stays so
whatever is called later, and a debit of any amount is covered and takes nothing off. -/
theorem balance_finite_iff_no_overflow (calls : List Call) (c : Card) (hc : c ∈ (Store.run {} calls).cards) :
    (c.balance.isFinite = true ↔
      ¬ ∃ earlier t later, (Store.run {} calls).transactionsOfCard c.id = earlier ++ t :: later ∧
        (booked 0 earlier).isFinite = true ∧ t.type = .charge ∧
        2 ^ 1024 - 2 ^ 970 ≤ toRat (booked 0 earlier) + toRat t.amount) ∧
    ((∀ t ∈ (Store.run {} calls).transactionsOfCard c.id, t.type = .charge → toRat t.amount ≤ 2 ^ 971) →
      topUps ((Store.run {} calls).transactionsOfCard c.id) < 2 ^ 53 → c.balance.isFinite = true) ∧
    (c.balance.isFinite = false →
      c.balance = Float.inf ∧
      (∀ more, ∀ d ∈ (Store.run {} (calls ++ more)).cards, d.id = c.id → d.balance = Float.inf) ∧
      ∀ a amount, amount.isFinite = true → 0 < amount → a.interference.cardUpdatesLost = false →
        ∃ after, (Store.run {} calls).debit a c.id amount = .ok ({ c with updatedAt := a.now }, after)) := by
  have hState := CoveredThroughout.run calls
  refine ⟨hState.isFinite_balance_iff hc, hState.isFinite_balance_of_few hc, fun hInfinite => ?_⟩
  have hBalance : c.balance = Float.inf := by
    by_contra hOther
    have hFinite := (isFinite_iff_ne_inf (hState.reconciled.nonneg c hc)).mpr hOther
    exact absurd (hInfinite.symm.trans hFinite) (by decide)
  refine ⟨hBalance, fun more d hd hSame => ?_, fun a amount hFinite hPos hKept => ?_⟩
  · have hLater := CoveredThroughout.run (calls ++ more)
    rw [Store.run_append] at hLater hd
    exact hState.balance_inf_of_run hc hBalance hLater hd hSame
  · exact Store.debit_of_inf hState.reconciled.keyed hc hBalance (isAmount_iff.mpr ⟨hFinite, hPos⟩) hKept

/-! ## A run to the infinity -/

namespace Sample

/-- A card is issued and gets two top-ups, each of them finite. -/
def overfunded : List Call :=
  opening.take 3 ++ [call 4 (.fundCard tenant issued 1e308), call 5 (.fundCard tenant issued 1e308)]

end Sample

/-- One of the two top-ups overflows, and a purchase made after them leaves the balance as it is. -/
theorem balance_finite_iff_no_overflow_of_sample :
    ∃ c ∈ (Store.run {} Sample.overfunded).cards, c.balance.isFinite = false ∧
      (∃ earlier t later, (Store.run {} Sample.overfunded).transactionsOfCard c.id = earlier ++ t :: later ∧
        (booked 0 earlier).isFinite = true ∧ t.type = .charge ∧
        2 ^ 1024 - 2 ^ 970 ≤ toRat (booked 0 earlier) + toRat t.amount) ∧
      ∀ d ∈ (Store.run {} (Sample.overfunded ++ [Sample.purchase 6 10 .epoch])).cards,
        d.id = c.id → d.balance = Float.inf := by
  have hBalance : ((Store.run {} Sample.overfunded).card? Sample.issued).map (·.balance.isFinite) =
      some false := by decide +kernel
  obtain ⟨c, hCard, hInfinite⟩ := Option.map_eq_some_iff.mp hBalance
  have hc := (Store.mem_of_card? hCard).1
  obtain ⟨hFinite, -, hAfter⟩ := balance_finite_iff_no_overflow Sample.overfunded c hc
  have hOverflows := not_not.mp (hFinite.not.mp (by rw [hInfinite]; decide))
  exact ⟨c, hc, hInfinite, hOverflows, (hAfter hInfinite).2.1 [Sample.purchase 6 10 .epoch]⟩

/-- Two top-ups that are both accepted leave an infinite balance, of which a purchase takes nothing off. -/
theorem balance_infinite_after_top_ups :
    ¬ (∀ calls : List Call, ∀ c ∈ (Store.run {} calls).cards, c.balance.isFinite = true) ∧
      (Store.run {} Sample.overfunded).transactions.map (fun t => (t.type, t.amount, t.status)) =
        [(.charge, 1e308, .completed), (.charge, 1e308, .completed)] ∧
      (Store.run {} Sample.overfunded).cards.map (fun c => (c.id, c.balance)) =
        [(Sample.issued, Float.inf)] ∧
      ((Store.run {} Sample.overfunded).after (Sample.purchase 6 10 .epoch)).cards.map (·.balance) =
        [Float.inf] ∧
      ((Store.run {} Sample.overfunded).after (Sample.purchase 6 10 .epoch)).transactions.length = 3 := by
  refine ⟨fun hFinite => ?_, by decide +kernel, by decide +kernel, by decide +kernel, by decide +kernel⟩
  have hAll : (Store.run {} Sample.overfunded).cards.all (·.balance.isFinite) = true :=
    List.all_eq_true.mpr (hFinite Sample.overfunded)
  have hNot : (Store.run {} Sample.overfunded).cards.all (·.balance.isFinite) = false := by decide +kernel
  exact absurd (hAll.symm.trans hNot) (by decide)

end CardLedger
