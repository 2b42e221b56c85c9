import CardLedger.Store.Basic
import CardLedger.Value.Json.Printer

/-!
# Archives

The text in which the tables of a store outlast a run: one JSON record with a list of rows for each
table. Instants stand as seconds and nanoseconds and amounts as texts, so that nothing is lost. An
empty text is an empty store.
-/

namespace CardLedger

namespace Archive

/-- The archived form of an instant. -/
def ofInstant (i : Instant) : Value :=
  .list [.int i.seconds, .int i.nanos]

/-- Read an instant. -/
def instant? : Value → Option Instant
  | .list [.int seconds, .int nanos] => Instant.ofParts? seconds nanos.toNat
  | _ => none

/-- The archived form of an identifier. -/
def ofId (id : Uuid) : Value :=
  .text id.toText

/-- Read an identifier. -/
def id? (v : Value) : Option Uuid :=
  v.text? >>= Uuid.ofText?

/-- The archived form of an amount. -/
def ofAmount (x : Float) : Value :=
  .text (Number.message x)

/-- Read an amount. -/
def amount? (v : Value) : Option Float :=
  v.text? >>= Number.ofText?

/-- Read something that may be null. -/
def option? {α : Type} (read : Value → Option α) : Value → Option (Option α)
  | .null => some none
  | v => (read v).map some

/-- The archived form of a company. -/
def ofCompany (c : Company) : Value :=
  .list
    [ofId c.id, .text c.name, .text c.email, .optional .text c.address, .optional .text c.phone,
      .text c.status.name, ofInstant c.createdAt, ofInstant c.updatedAt]

/-- Read a company. -/
def company? : Value → Option Company
  | .list [id, name, email, address, phone, status, createdAt, updatedAt] => do
      return {
        id := ← id? id, name := ← name.text?, email := ← email.text?
        address := ← option? Value.text? address, phone := ← option? Value.text? phone
        status := ← CompanyStatus.ofName? (← status.text?)
        createdAt := ← instant? createdAt, updatedAt := ← instant? updatedAt }
  | _ => none

/-- The archived form of a card. -/
def ofCard (c : Card) : Value :=
  .list
    [ofId c.id, ofId c.companyId, .text c.number, .text c.holder, .text c.employeeId,
      .text c.employeeEmail, .text c.cardType, .text c.status, ofAmount c.balance,
      .optional ofAmount c.spendingLimit, .optional ofAmount c.dailyLimit,
      .optional ofAmount c.monthlyLimit, ofInstant c.expiry, .text c.cvvHash, .text c.lastFour,
      ofInstant c.createdAt, ofInstant c.updatedAt, .optional ofInstant c.blockedAt,
      .optional .text c.blockedReason]

/-- Read a card. -/
def card? : Value → Option Card
  | .list [id, companyId, number, holder, employeeId, employeeEmail, cardType, status, balance,
      spendingLimit, dailyLimit, monthlyLimit, expiry, cvvHash, lastFour, createdAt, updatedAt,
      blockedAt, blockedReason] => do
      return {
        id := ← id? id, companyId := ← id? companyId, number := ← number.text?
        holder := ← holder.text?, employeeId := ← employeeId.text?
        employeeEmail := ← employeeEmail.text?, cardType := ← cardType.text?
        status := ← status.text?, balance := ← amount? balance
        spendingLimit := ← option? amount? spendingLimit
        dailyLimit := ← option? amount? dailyLimit
        monthlyLimit := ← option? amount? monthlyLimit
        expiry := ← instant? expiry, cvvHash := ← cvvHash.text?, lastFour := ← lastFour.text?
        createdAt := ← instant? createdAt, updatedAt := ← instant? updatedAt
        blockedAt := ← option? instant? blockedAt
        blockedReason := ← option? Value.text? blockedReason }
  | _ => none

/-- The archived form of a queue row. -/
def ofQueueRow (r : QueueRow) : Value :=
  .list
    [ofId r.id, ofId r.companyId, ofId r.cardId, ofId r.employeeId, .text r.employeeEmail,
      .text r.status.name, ofInstant r.createdAt, ofInstant r.updatedAt]

/-- Read a queue row. -/
def queueRow? : Value → Option QueueRow
  | .list [id, companyId, cardId, employeeId, employeeEmail, status, createdAt, updatedAt] => do
      return {
        id := ← id? id, companyId := ← id? companyId, cardId := ← id? cardId
        employeeId := ← id? employeeId, employeeEmail := ← employeeEmail.text?
        status := ← QueueStatus.ofName? (← status.text?)
        createdAt := ← instant? createdAt, updatedAt := ← instant? updatedAt }
  | _ => none

/-- The archived form of a transaction. -/
def ofTransaction (t : Transaction) : Value :=
  .list
    [ofId t.id, ofId t.cardId, ofId t.companyId, .text t.type.name, ofAmount t.amount,
      .optional .text t.merchantName, .optional .text t.merchantCategory, .text t.description,
      .text t.status.name, .optional ofInstant t.processedAt, ofInstant t.createdAt,
      ofInstant t.updatedAt]

/-- Read a transaction. -/
def transaction? : Value → Option Transaction
  | .list [id, cardId, companyId, kind, amount, merchantName, merchantCategory, description, status,
      processedAt, createdAt, updatedAt] => do
      return {
        id := ← id? id, cardId := ← id? cardId, companyId := ← id? companyId
        type := ← TransactionType.ofName? (← kind.text?), amount := ← amount? amount
        merchantName := ← option? Value.text? merchantName
        merchantCategory := ← option? Value.text? merchantCategory
        description := ← description.text?
        status := ← TransactionStatus.ofName? (← status.text?)
        processedAt := ← option? instant? processedAt
        createdAt := ← instant? createdAt, updatedAt := ← instant? updatedAt }
  | _ => none

/-- The archived form of a control. -/
def ofControlRow (r : ControlRow) : Value :=
  .list
    [ofId r.id, ofId r.cardId, .text r.type, r.payload, .bool r.isActive, ofInstant r.createdAt,
      ofInstant r.updatedAt]

/-- Read a control. -/
def controlRow? : Value → Option ControlRow
  | .list [id, cardId, kind, payload, .bool isActive, createdAt, updatedAt] => do
      return {
        id := ← id? id, cardId := ← id? cardId, type := ← kind.text?, payload, isActive
        createdAt := ← instant? createdAt, updatedAt := ← instant? updatedAt }
  | _ => none

/-- Read the rows of a table. -/
def table? {α : Type} (read : Value → Option α) (v : Value) : Option (List α) := do
  (← v.items?).mapM read

/-- Read all tables. -/
def store? (v : Value) : Option Store := do
  return {
    companies := ← table? company? (← v.field? "companies")
    cards := ← table? card? (← v.field? "cards")
    queue := ← table? queueRow? (← v.field? "queue")
    transactions := ← table? transaction? (← v.field? "transactions")
    controls := ← table? controlRow? (← v.field? "controls") }

end Archive

/-- The archive of a store. -/
def Store.toArchive (s : Store) : String :=
  Value.toJson
    (.record
      [("companies", .list (s.companies.map Archive.ofCompany)),
        ("cards", .list (s.cards.map Archive.ofCard)),
        ("queue", .list (s.queue.map Archive.ofQueueRow)),
        ("transactions", .list (s.transactions.map Archive.ofTransaction)),
        ("controls", .list (s.controls.map Archive.ofControlRow))])

/-- The store of an archive. -/
def Store.ofArchive? (text : String) : Option Store :=
  if text.isEmpty then some {} else Value.ofJson? text >>= Archive.store?

end CardLedger
