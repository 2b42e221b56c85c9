import CardLedger.Calendar.Instant
import CardLedger.Control.Basic
import CardLedger.Uuid

/-!
# Rows

The rows of the five tables of the ledger: companies, cards, the issuance queue, transactions, and
spending controls. A card keeps its status and a control its type as the text that was written,
since either may be written by others.
-/

namespace CardLedger

/-- What a company may do. -/
inductive CompanyStatus where
  | active
  | suspended
  | inactive
  deriving DecidableEq

/-- The states of a card. -/
inductive CardStatus where
  | active
  | blocked
  | expired
  | cancelled
  deriving DecidableEq

/-- The states of a row of the issuance queue. -/
inductive QueueStatus where
  | pending
  | generated
  deriving DecidableEq

/-- The kinds of money movement. -/
inductive TransactionType where
  | purchase
  | charge
  deriving DecidableEq

/-- How far a transaction has come. -/
inductive TransactionStatus where
  | pending
  | completed
  | failed
  deriving DecidableEq

/-- The name of a status in the store. -/
def CompanyStatus.name : CompanyStatus → String
  | .active => "active"
  | .suspended => "suspended"
  | .inactive => "inactive"

/-- The status of a name. -/
def CompanyStatus.ofName? (text : String) : Option CompanyStatus :=
  [.active, .suspended, .inactive].find? fun status => status.name == text

/-- The name of a status in the store. -/
def CardStatus.name : CardStatus → String
  | .active => "active"
  | .blocked => "blocked"
  | .expired => "expired"
  | .cancelled => "cancelled"

/-- The status of a name. -/
def CardStatus.ofName? (text : String) : Option CardStatus :=
  [.active, .blocked, .expired, .cancelled].find? fun status => status.name == text

/-- The name of a status in the store. -/
def QueueStatus.name : QueueStatus → String
  | .pending => "pending"
  | .generated => "generated"

/-- The status of a name. -/
def QueueStatus.ofName? (text : String) : Option QueueStatus :=
  [.pending, .generated].find? fun status => status.name == text

/-- The name of a kind of movement in the store. -/
def TransactionType.name : TransactionType → String
  | .purchase => "purchase"
  | .charge => "charge"

/-- The kind of movement of a name. -/
def TransactionType.ofName? (text : String) : Option TransactionType :=
  [.purchase, .charge].find? fun kind => kind.name == text

/-- The name of a status in the store. -/
def TransactionStatus.name : TransactionStatus → String
  | .pending => "pending"
  | .completed => "completed"
  | .failed => "failed"

/-- The status of a name. -/
def TransactionStatus.ofName? (text : String) : Option TransactionStatus :=
  [.pending, .completed, .failed].find? fun status => status.name == text

/-- A company that cards are issued for. -/
structure Company where
  id : Uuid
  name : String
  email : String
  address : Option String
  phone : Option String
  status : CompanyStatus
  createdAt : Instant
  updatedAt : Instant
  deriving DecidableEq

/-- A payment card with its balance and limits. -/
structure Card where
  id : Uuid
  companyId : Uuid
  number : String
  holder : String
  employeeId : String
  employeeEmail : String
  cardType : String
  status : String
  balance : Float
  spendingLimit : Option Float
  dailyLimit : Option Float
  monthlyLimit : Option Float
  expiry : Instant
  cvvHash : String
  lastFour : String
  createdAt : Instant
  updatedAt : Instant
  blockedAt : Option Instant
  blockedReason : Option String
  deriving DecidableEq

/-- The status of a card, unless the text written is no status. -/
def Card.status? (c : Card) : Option CardStatus :=
  CardStatus.ofName? c.status

/-- An employee waiting for a card, with the identifier that the card will have. -/
structure QueueRow where
  id : Uuid
  companyId : Uuid
  cardId : Uuid
  employeeId : Uuid
  employeeEmail : String
  status : QueueStatus
  createdAt : Instant
  updatedAt : Instant
  deriving DecidableEq

/-- A record of card activity. -/
structure Transaction where
  id : Uuid
  cardId : Uuid
  companyId : Uuid
  type : TransactionType
  amount : Float
  merchantName : Option String
  merchantCategory : Option String
  description : String
  status : TransactionStatus
  processedAt : Option Instant
  createdAt : Instant
  updatedAt : Instant
  deriving DecidableEq

/-- A spending control of a card as it is stored. -/
structure ControlRow where
  id : Uuid
  cardId : Uuid
  type : String
  payload : Value
  isActive : Bool
  createdAt : Instant
  updatedAt : Instant

end CardLedger
