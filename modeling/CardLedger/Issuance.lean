import CardLedger.Companies
import CardLedger.Controls
import CardLedger.Digest.Sha256
import CardLedger.Luhn
import CardLedger.Settings

/-!
# Issuance

Cards are issued in two steps. Employees are queued, each with the identifier that the card will
have; one call then turns all pending rows of a company into active cards with the default
controls, all of them or none.
-/

namespace CardLedger

/-- The position, counted from one, of the first employee without an e-mail address. -/
def firstBlankEmail? (employees : List EmployeeRecord) : Option Nat :=
  (employees.findIdx? fun e => Text.isBlankText e.email).map (· + 1)

/-- The queue row of an employee. -/
def EmployeeRecord.queueRow (e : EmployeeRecord) (company id card : Uuid) (now : Instant) : QueueRow :=
  { id, companyId := company, cardId := card, employeeId := e.employeeId
    employeeEmail := Text.trim e.email, status := .pending, createdAt := now, updatedAt := now }

/-- The hash of a card verification value of three digits. -/
def cvvHash (n : Nat) : String :=
  Digest.ofText (Number.padded 3 (n % 1000))

/-- The months of so many years. They are counted in 32 bits without a check, so that from 357913942
years on they wrap around. -/
def validityMonths (years : Nat) : Nat :=
  years * 12 % Nat.pow 2 32

/-- The end of the validity of a card. -/
def expiryAfter (now : Instant) (years : Nat) : Except Error Instant :=
  match now.addMonths? (validityMonths years) with
  | some i => .ok i
  | none => .error (.config (.validityOverflow years))

/-- The card of a queue row: active, empty and without limits. -/
def QueueRow.card (r : QueueRow) (number cvv : String) (now expiry : Instant) : Card :=
  { id := r.cardId, companyId := r.companyId, number, holder := "Employee - " ++ r.employeeEmail
    employeeId := r.employeeId.toText, employeeEmail := r.employeeEmail, cardType := "virtual"
    status := CardStatus.active.name, balance := 0, spendingLimit := none, dailyLimit := none
    monthlyLimit := none, expiry, cvvHash := cvv, lastFour := String.ofList (number.toList.drop 12)
    createdAt := now, updatedAt := now, blockedAt := none, blockedReason := none }

namespace Store

/-- Add queue rows one after the other. -/
def insertQueueRows (s : Store) : List QueueRow → Except Error Store
  | [] => .ok s
  | r :: rest => do
      let s ← s.insertQueueRow r
      s.insertQueueRows rest

/-- Queue employees for cards. -/
def enqueue (s : Store) (a : Ambient) (company : Uuid) (employees : List EmployeeRecord) :
    Except Error (List QueueRow × Store) := do
  if employees.isEmpty then .error (.invalidInput .noEmployees)
  match firstBlankEmail? employees with
  | some position => .error (.invalidInput (.employeeEmail position))
  | none => .ok ()
  s.checkActive company
  let rows := employees.zipIdx.map fun (e, i) =>
    e.queueRow company (a.freshId (2 * i)) (a.freshId (2 * i + 1)) a.now
  return (rows, ← s.insertQueueRows rows)

/-- The pending rows of a company in queue order. -/
def pending (s : Store) (company : Uuid) : List QueueRow :=
  oldestFirst (·.createdAt)
    (s.queue.filter fun r => r.companyId == company && r.status == .pending)

/-- Set controls of a card one after the other, the fresh identifiers counted from `next` on. -/
def putControls (s : Store) (a : Ambient) (card : Uuid) (next : Nat) :
    List ControlValue → Except Error Store
  | [] => .ok s
  | control :: rest => do
      let (_, s) ← s.putControl a (a.freshId next) card control
      s.putControls a card (next + 1) rest

/-- Issue the cards of queue rows, the first of them being the row at an index. -/
def issueRows (s : Store) (a : Ambient) (controls : List ControlValue) (expiry : Instant)
    (index : Nat) : List QueueRow → Except Error (List Card × Store)
  | [] => .ok ([], s)
  | r :: rest => do
      let draw := fun i => a.draw (15 * index + i)
      let card := r.card (Luhn.cardNumber draw) (cvvHash (draw 14)) a.now expiry
      let s ← s.insertCard card
      let s ← s.putControls a card.id (controls.length * index) controls
      let (issued, s) ← s.issueRows a controls expiry (index + 1) rest
      return (card :: issued, s)

/-- Mark queue rows as generated. -/
def markGenerated (s : Store) (now : Instant) (rows : List QueueRow) : Store :=
  { s with
    queue := s.queue.map fun r =>
      if rows.any fun row => row.id == r.id then { r with status := .generated, updatedAt := now }
      else r }

/-- Issue a card for every pending row of a company. -/
def issue (s : Store) (a : Ambient) (settings : IssuanceSettings) (company : Uuid) :
    Except Error (List Card × Store) := do
  s.checkActive company
  checkControls settings.defaultControls
  let rows := s.pending company
  if rows.isEmpty then .error (.nothingToIssue company)
  let expiry ← expiryAfter a.now settings.validityYears
  let (cards, s) ← s.issueRows a settings.defaultControls expiry 0 rows
  return (cards, s.markGenerated a.now rows)

end Store

end CardLedger
