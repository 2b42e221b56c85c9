import CardLedger.Amount
import CardLedger.Calendar.Window
import CardLedger.Store.Basic

/-!
# Transactions

The append-only record of card activity. A record is written as pending, only its status moves
afterwards. What a card has spent in a business day or month is the compensated sum over its
completed purchases of that window, in the order in which they were recorded.
-/

namespace CardLedger

/-- What a caller says of a new transaction. -/
structure NewTransaction where
  cardId : Uuid
  companyId : Uuid
  type : TransactionType
  amount : Float
  merchantName : Option String
  merchantCategory : Option String
  description : String

/-- The pending record of a new transaction. -/
def NewTransaction.record (new : NewTransaction) (id : Uuid) (createdAt : Instant) : Transaction :=
  { id, cardId := new.cardId, companyId := new.companyId, type := new.type, amount := new.amount
    merchantName := new.merchantName, merchantCategory := new.merchantCategory
    description := new.description, status := .pending, processedAt := none
    createdAt, updatedAt := createdAt }

/-- Whether a transaction counts as spending of a card in a window of time; timestamps are compared
as they are stored. -/
def Transaction.countsIn (t : Transaction) (card : Uuid) (w : Window) : Bool :=
  t.cardId == card && t.type == .purchase && t.status == .completed &&
    !t.createdAt.storedBefore w.start && t.createdAt.storedBefore w.stop

namespace Store

/-- Write a pending transaction, created at an instant. -/
def createTransaction (s : Store) (a : Ambient) (new : NewTransaction) (createdAt : Instant) :
    Except Error (Transaction × Store) := do
  checkAmount new.amount
  let record := new.record (a.freshId 0) createdAt
  let s ← s.insertTransaction a.interference record
  return (record, s)

/-- Move a transaction to a status; an identifier that is not in use changes nothing. -/
def updateStatus (s : Store) (a : Ambient) (id : Uuid) (status : TransactionStatus) : Store :=
  { s with
    transactions := s.transactions.map fun t =>
      if t.id == id then { t with status, processedAt := some a.now, updatedAt := a.now } else t }

/-- What a card has spent in a window of time. A sum that is no number cannot be told, and counts as
nothing. -/
def spentIn (s : Store) (card : Uuid) (w : Window) : Float :=
  let total := Number.sum ((s.transactions.filter fun t => t.countsIn card w).map (·.amount))
  if total.isNaN then 0 else total

/-- What a card has spent in the window of an instant. -/
def spentDuring (s : Store) (card : Uuid) (window : Except WindowFault Window) : Except Error Float := do
  let w ← liftFault (fun fault => .config (.window fault)) window
  return s.spentIn card w

/-- What a card has spent in the business day of an instant. -/
def spentToday (s : Store) (o : Offset) (card : Uuid) (now : Instant) : Except Error Float :=
  s.spentDuring card (o.dayWindow now)

/-- What a card has spent in the business month of an instant. -/
def spentThisMonth (s : Store) (o : Offset) (card : Uuid) (now : Instant) : Except Error Float :=
  s.spentDuring card (o.monthWindow now)

/-- The transactions of a card. -/
def transactionsOfCard (s : Store) (card : Uuid) : List Transaction :=
  s.transactions.filter fun t => t.cardId == card

/-- The transactions of a company. -/
def transactionsOfCompany (s : Store) (company : Uuid) : List Transaction :=
  s.transactions.filter fun t => t.companyId == company

/-- A stretch of transactions, the newest first. -/
def listed (rows : List Transaction) (limit offset : Nat) : List Transaction :=
  ((newestFirst (·.createdAt) rows).drop offset).take limit

end Store

end CardLedger
