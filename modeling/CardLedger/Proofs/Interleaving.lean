import Mathlib.Logic.Function.Basic
import CardLedger.Proofs.Booking

/-!
# Interleaved purchases

Any number of purchases at once, each in two steps: the stages that only read look at the store as it
is at one moment, and the commit runs as a whole on the store as it is later. In between other
purchases commit, funds are loaded, and balances are changed in other ways that do not make them
negative.

What a purchase saw in its first step is of no account. Its commit finds the balance of that moment,
which either covers the amount or is named in the conflict. The history keeps the movements of money
in the order in which they happened, and every balance is what they make of the first one.
-/

namespace CardLedger

/-- A purchase as it is submitted to an authorizer. -/
structure Submission where
  authorizer : Authorizer
  company : Uuid
  request : PurchaseRequest
  now : Instant

namespace Submission

/-- The stages before the commit. -/
def screen (p : Submission) (s : Store) : Except Error (Card × List Advisory) := do
  p.request.check p.company
  p.authorizer.screen s p.company p.request p.now

/-- The commit, for the card that the stages before it have found. -/
def commit (p : Submission) (s : Store) (a : Ambient) (card : Card) (advisories : List Advisory) :
    Except Error (AuthorizedPurchase × Store) :=
  p.authorizer.commit s a card p.request p.now advisories

/-- The spend windows of the instant of a purchase can be told. -/
def WindowsResolve (p : Submission) : Prop :=
  ∃ day month, p.authorizer.offset.dayWindow p.now = .ok day ∧
    p.authorizer.offset.monthWindow p.now = .ok month

/-- With time and an answering store, the two steps in one go are an authorization. -/
theorem authorize_eq {p : Submission} {s : Store} {a : Ambient}
    (hHeard : ¬ (a.interference.storeSilent = true ∨ p.authorizer.timeoutMs = 0)) :
    p.authorizer.authorize s a p.company p.request p.now =
      p.screen s >>= fun found => p.commit s a found.1 found.2 := by
  unfold Authorizer.authorize screen commit
  rw [if_neg hHeard, bind_assoc]

end Submission

/-- Surroundings in which nobody interferes: what others do comes before or after. -/
def Ambient.solitary (a : Ambient) : Ambient :=
  { a with interference := {} }

/-- How far a submitted purchase has come. -/
inductive Stage where
  | waiting
  | passed (card : Card) (advisories : List Advisory)
  | ended (outcome : Except Error AuthorizedPurchase)

/-- Whether a purchase has passed the checks and waits for its commit. -/
def Stage.isPassed : Stage → Bool
  | passed .. => true
  | _ => false

theorem Stage.exists_of_isPassed {stage : Stage} (hPassed : stage.isPassed = true) :
    ∃ card advisories, stage = .passed card advisories := by
  cases stage with
  | passed card advisories => exact ⟨card, advisories, rfl⟩
  | _ => cases hPassed

/-- A change of a balance by others that does not make it negative. -/
structure BalanceChange where
  card : Uuid
  apply : Float → Float
  nonneg : ∀ balance, 0 ≤ balance → 0 ≤ apply balance

/-- A card with its balance changed by others. -/
def BalanceChange.onCard (change : BalanceChange) (c : Card) : Card :=
  { c with balance := change.apply c.balance }

@[simp]
theorem BalanceChange.onCard_id (change : BalanceChange) (c : Card) :
    (change.onCard c).id = c.id := rfl

/-- A movement of money; a purchase is told with the submission that it comes from. -/
inductive Movement (ι : Type) where
  | purchase (i : ι) (t : Transaction)
  | charge (t : Transaction)
  | adjustment (change : BalanceChange)

namespace Movement

variable {ι : Type}

/-- The balance of a card after a movement. -/
def balanceAfter (id : Uuid) (balance : Float) : Movement ι → Float
  | purchase _ t | charge t => if t.cardId = id then t.balanceAfter balance else balance
  | adjustment change => if change.card = id then change.apply balance else balance

/-- The transaction that a movement adds to the record. -/
def row? : Movement ι → Option Transaction
  | purchase _ t | charge t => some t
  | adjustment _ => none

/-- The transaction of a submission. -/
def purchaseOf? [DecidableEq ι] (i : ι) : Movement ι → Option Transaction
  | purchase j t => if j = i then some t else none
  | charge _ | adjustment _ => none

end Movement

/-- The store with submitted purchases on their way, and the movements of money so far. -/
structure Traffic (ι : Type) where
  store : Store
  stage : ι → Stage
  history : List (Movement ι)

/-- A step of a submission, or something that others do. -/
inductive TrafficEvent (ι : Type) where
  | screen (i : ι)
  | commit (i : ι) (a : Ambient)
  | fund (a : Ambient) (company card : Uuid) (amount : Float)
  | adjust (change : BalanceChange)

namespace Traffic

variable {ι : Type}

/-- Purchases that wait to be looked at. -/
def start (s : Store) : Traffic ι :=
  ⟨s, fun _ => .waiting, []⟩

/-- Move a submission on to a stage. -/
def turn [DecidableEq ι] (w : Traffic ι) (i : ι) (stage : Stage) : Traffic ι :=
  { w with stage := Function.update w.stage i stage }

/-- Put a store in place that a movement has led to. -/
def record (w : Traffic ι) (next : Store) (m : Movement ι) : Traffic ι :=
  { w with store := next, history := w.history ++ [m] }

@[simp]
theorem record_store (w : Traffic ι) (next : Store) (m : Movement ι) :
    (w.record next m).store = next := rfl

@[simp]
theorem record_stage (w : Traffic ι) (next : Store) (m : Movement ι) :
    (w.record next m).stage = w.stage := rfl

/-- What an event does; a submission takes its two steps once and in order. -/
def step [DecidableEq ι] (p : ι → Submission) (w : Traffic ι) : TrafficEvent ι → Traffic ι
  | .screen i =>
      match w.stage i with
      | .waiting =>
          match (p i).screen w.store with
          | .ok (card, advisories) => w.turn i (.passed card advisories)
          | .error e => w.turn i (.ended (.error e))
      | _ => w
  | .commit i a =>
      match w.stage i with
      | .passed card advisories =>
          match (p i).commit w.store a.solitary card advisories with
          | .ok (purchase, next) =>
              (w.record next (.purchase i purchase.transaction)).turn i (.ended (.ok purchase))
          | .error e => w.turn i (.ended (.error e))
      | _ => w
  | .fund a company card amount =>
      match w.store.fundCard a.solitary company card amount with
      | .ok (_, next) =>
          w.record next
            (.charge ((Store.topUp company card amount).completed (a.freshId 0) a.now a.now))
      | .error _ => w
  | .adjust change =>
      w.record (w.store.modifyCard change.card change.onCard) (.adjustment change)

/-- The traffic after a sequence of events. -/
def run [DecidableEq ι] (p : ι → Submission) (w : Traffic ι) (events : List (TrafficEvent ι)) :
    Traffic ι :=
  events.foldl (step p) w

/-- The transactions of a submission in the history. -/
def purchases [DecidableEq ι] (w : Traffic ι) (i : ι) : List Transaction :=
  w.history.filterMap (Movement.purchaseOf? i)

/-! ## Balances and the history -/

/-- How the store follows from the first one and the history. -/
structure Balanced (s : Store) (w : Traffic ι) : Prop where
  keyed : w.store.CardsKeyed
  ids : w.store.cards.map (·.id) = s.cards.map (·.id)
  nonneg : ∀ c ∈ w.store.cards, 0 ≤ c.balance
  record : w.store.transactions = s.transactions ++ w.history.filterMap Movement.row?
  balances : ∀ id, (w.store.card? id).map (·.balance) = (s.card? id).map fun c =>
    w.history.foldl (Movement.balanceAfter id) c.balance

variable {s next : Store} {w : Traffic ι} {m : Movement ι} {t : Transaction}

theorem balanced_start (hKeyed : s.CardsKeyed) (hNonneg : ∀ c ∈ s.cards, 0 ≤ c.balance) :
    Balanced s (start s : Traffic ι) where
  keyed := hKeyed
  ids := rfl
  nonneg := hNonneg
  record := (List.append_nil s.transactions).symm
  balances := fun _ => rfl

theorem Balanced.turn [DecidableEq ι] (hState : Balanced s w) (i : ι) (stage : Stage) :
    Balanced s (w.turn i stage) :=
  ⟨hState.keyed, hState.ids, hState.nonneg, hState.record, hState.balances⟩

/-- A movement goes on from the balances that the history has come to. -/
theorem Balanced.record_balances (hState : Balanced s w)
    (hBalance : ∀ id, (next.card? id).map (·.balance) =
      (w.store.card? id).map fun c => m.balanceAfter id c.balance) (id : Uuid) :
    (next.card? id).map (·.balance) = (s.card? id).map fun c =>
      (w.history ++ [m]).foldl (Movement.balanceAfter id) c.balance := by
  -- the balances are optional, so the movement is applied below the option
  have hSoFar := congrArg (Option.map fun balance => m.balanceAfter id balance) (hState.balances id)
  rw [Option.map_map, Option.map_map] at hSoFar
  rw [hBalance id]
  refine hSoFar.trans ?_
  congr 1
  funext c
  simp

theorem Balanced.book (hState : Balanced s w) (hBooking : Booking w.store next t)
    (hRow : m.row? = some t)
    (hEffect : ∀ id balance,
      m.balanceAfter id balance = if t.cardId = id then t.balanceAfter balance else balance) :
    Balanced s (w.record next m) where
  keyed := (Store.cardsKeyed_of_ids hBooking.ids).mpr hState.keyed
  ids := hBooking.ids.trans hState.ids
  nonneg := hBooking.nonneg hState.keyed hState.nonneg
  record := by
    change next.transactions = s.transactions ++ (w.history ++ [m]).filterMap Movement.row?
    rw [hBooking.record, hState.record, List.filterMap_append]
    simp [hRow]
  balances := by
    refine hState.record_balances fun id => ?_
    simp only [hEffect]
    exact hBooking.balance id

theorem Balanced.adjust (hState : Balanced s w) (change : BalanceChange) :
    Balanced s
      (w.record (w.store.modifyCard change.card change.onCard) (.adjustment change)) where
  keyed := (Store.cardsKeyed_modifyCard change.onCard_id).mpr hState.keyed
  ids := (Store.modifyCard_ids change.onCard_id).trans hState.ids
  nonneg := Store.forall_modifyCard (fun c hc => change.nonneg c.balance hc) hState.nonneg
  record := by
    change w.store.transactions = s.transactions ++ (w.history ++ [_]).filterMap Movement.row?
    rw [hState.record, List.filterMap_append]
    simp [Movement.row?]
  balances :=
    hState.record_balances fun _ =>
      Store.balance_modifyCard change.apply change.onCard_id fun _ => rfl

end Traffic

end CardLedger
