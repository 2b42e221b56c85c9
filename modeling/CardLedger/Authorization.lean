import CardLedger.Controls
import CardLedger.Control.Policy
import CardLedger.Settings

/-!
# Authorization of purchases

A purchase passes a fixed sequence of stages and stops at the first that fails: the request itself,
the card, its status and expiry, its balance and limit, the daily and monthly limits, the spending
controls, and last the commit. The stages before the commit only read, and what they read may be
out of date. The commit writes the record, debits the card and completes the record, all of it or
nothing; its debit decides.
-/

namespace CardLedger

/-- A purchase as it is requested. -/
structure PurchaseRequest where
  /-- The company that the request names. -/
  company : Uuid
  card : Uuid
  amount : Float
  merchantCategory : String
  merchantName : Option String

/-- A note on a purchase that was let through. -/
inductive Advisory where
  | expiringSoon (days : Int)
  deriving DecidableEq

/-- What a card has spent with a purchase included, and what its limits leave. -/
structure SpendSnapshot where
  today : Float
  remainingDaily : Option Float
  thisMonth : Float
  remainingMonthly : Option Float

/-- A purchase that was let through. -/
structure AuthorizedPurchase where
  transaction : Transaction
  remainingBalance : Float
  cardLastFour : String
  spend : SpendSnapshot
  advisories : List Advisory

/-- The settings of authorization with the business offset checked. -/
structure Authorizer where
  offset : Offset := .standard
  warningDays : Int := 30
  timeoutMs : Nat := 5000

/-- The authorizer of some settings. -/
def AuthorizationSettings.authorizer (settings : AuthorizationSettings) : Except Error Authorizer := do
  let offset ← settings.offset
  return ⟨offset, settings.expiryWarningDays, settings.timeoutMs⟩

/-- Check a request of a company before the store is asked anything. -/
def PurchaseRequest.check (r : PurchaseRequest) (company : Uuid) : Except Error Unit := do
  checkAmount r.amount
  if Text.isBlankText r.merchantCategory then .error (.invalidInput .categoryMissing)
  else if r.company ≠ company then .error (.forbidden .otherCompany)
  else .ok ()

/-- Why a card that is not active cannot be used. -/
def Card.inactiveDetail (c : Card) : String :=
  match c.status? with
  | some .blocked =>
      match c.blockedReason with
      | some reason => if reason.isEmpty then "Card is blocked" else s!"Card is blocked: {reason}"
      | none => "Card is blocked"
  | some .expired => "Card has expired"
  | some .cancelled => "Card has been cancelled"
  | some .active => "Card is not active"
  | none => "Card is not active"

/-- The record of a purchase that is about to be made with a card. -/
def PurchaseRequest.newTransaction (r : PurchaseRequest) (c : Card) : NewTransaction :=
  { cardId := c.id, companyId := c.companyId, type := .purchase, amount := r.amount
    merchantName := r.merchantName
    merchantCategory := some (Text.normalize r.merchantCategory)
    description :=
      match r.merchantName with
      | some merchant => s!"Purchase at {merchant}"
      | none => "Card purchase" }

/-- A limit that is breached when an amount comes on top of what was spent. -/
def checkPeriodLimit (limit : Option Float) (spent : Except Error Float) (amount : Float)
    (denial : LimitBreach → Denial) : Except Error Unit :=
  match limit with
  | none => .ok ()
  | some limit => do
      let spent ← spent
      if spent + amount > limit then .error (.denied (denial (.of limit spent amount))) else .ok ()

namespace Authorizer

/-- Check that a card is active and has not expired; note if it soon will. The denial of a card that
has expired names a date, which has to be read first. -/
def checkUsable (z : Authorizer) (c : Card) (now : Instant) : Except Error (List Advisory) :=
  if c.status? ≠ some .active then .error (.denied (.cardInactive c.status c.inactiveDetail))
  else if c.expiry ≤ now then do
    let date ← liftFault (fun fault => .config (.window fault)) (z.offset.readDate c.expiry)
    .error (.denied (.cardExpired date))
  else
    let days := now.daysBetween c.expiry
    if days ≤ z.warningDays then .ok [.expiringSoon days] else .ok []

/-- Check the balance and the limit of a single purchase. -/
def checkSufficient (c : Card) (amount : Float) : Except Denial Unit :=
  if c.balance < amount then
    .error (.insufficientBalance c.balance amount (amount - c.balance))
  else
    match c.spendingLimit with
    | some limit => if amount > limit then .error (.spendingLimitExceeded limit amount) else .ok ()
    | none => .ok ()

/-- Check the daily and then the monthly limit. -/
def checkPeriods (z : Authorizer) (s : Store) (c : Card) (amount : Float) (now : Instant) :
    Except Error Unit := do
  checkPeriodLimit c.dailyLimit (s.spentToday z.offset c.id now) amount .dailyLimitExceeded
  checkPeriodLimit c.monthlyLimit (s.spentThisMonth z.offset c.id now) amount .monthlyLimitExceeded

/-- Check the active controls; one that cannot be decoded fails the purchase. -/
def checkPolicy (z : Authorizer) (s : Store) (c : Card) (category : String) (now : Instant) :
    Except Error Unit := do
  let controls ← s.activeControlValues c.id
  let time := z.offset.localTime now
  match ← liftFault .controlConfig (evaluateControls controls category time) with
  | none => .ok ()
  | some violation =>
      .error (.denied (.controlViolation violation.type violation.reason (Text.normalize category)
        time.toText z.offset.toText))

/-- The stages that read the store: the card of the purchase and the notes on it. -/
def screen (z : Authorizer) (s : Store) (company : Uuid) (r : PurchaseRequest) (now : Instant) :
    Except Error (Card × List Advisory) := do
  let card ← s.getCard company r.card
  let advisories ← z.checkUsable card now
  liftFault .denied (checkSufficient card r.amount)
  z.checkPeriods s card r.amount now
  z.checkPolicy s card r.merchantCategory now
  return (card, advisories)

/-- Tell a debit that failed for want of funds as a conflict with what was read before. -/
def conflict : Error → Error
  | .insufficientBalance card available required => .commitConflict card available required
  | e => e

/-- Write the record, debit the card and complete the record. -/
def commit (z : Authorizer) (s : Store) (a : Ambient) (card : Card) (r : PurchaseRequest)
    (now : Instant) (advisories : List Advisory) : Except Error (AuthorizedPurchase × Store) := do
  let (record, s) ← s.createTransaction a (r.newTransaction card) now
  let (debited, s) ← liftFault conflict (s.debit a card.id r.amount)
  let s := s.updateStatus a record.id .completed
  match s.transaction? record.id with
  | none => .error (.transactionNotFound record.id)
  | some transaction =>
      let today ← s.spentToday z.offset card.id now
      let thisMonth ← s.spentThisMonth z.offset card.id now
      let spend : SpendSnapshot :=
        { today, remainingDaily := debited.dailyLimit.map (· - today)
          thisMonth, remainingMonthly := debited.monthlyLimit.map (· - thisMonth) }
      return (⟨transaction, debited.balance, debited.lastFour, spend, advisories⟩, s)

/-- Authorize a purchase of a company as if it happened at an instant. When the store is silent, or
no time is given at all, whatever needs the store ends at the deadline. -/
def authorize (z : Authorizer) (s : Store) (a : Ambient) (company : Uuid) (r : PurchaseRequest)
    (now : Instant) : Except Error (AuthorizedPurchase × Store) := do
  r.check company
  if a.interference.storeSilent ∨ z.timeoutMs = 0 then .error (.timeout z.timeoutMs)
  else
    let (card, advisories) ← z.screen s company r now
    z.commit s a card r now advisories

end Authorizer

end CardLedger
