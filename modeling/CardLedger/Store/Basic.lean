import CardLedger.Calendar.Timestamp
import CardLedger.Error
import CardLedger.Store.Ambient
import CardLedger.Store.Row

/-!
# The store

Five tables that keep their rows in the order of insertion. Rows are added and changed, never
removed. A row may only be added under an identifier of its own and, where it refers to another
row, when that row is there. An operation on the store gives a value and a new store, or an error
and no store, so that a failed operation leaves no trace.
-/

namespace CardLedger

/-- The tables of the ledger. -/
structure Store where
  companies : List Company := []
  cards : List Card := []
  queue : List QueueRow := []
  transactions : List Transaction := []
  controls : List ControlRow := []

namespace Store

/-! ## Looking up rows -/

/-- The company with an identifier. -/
def company? (s : Store) (id : Uuid) : Option Company :=
  s.companies.find? fun c => c.id == id

/-- The card with an identifier, whichever company has it. -/
def card? (s : Store) (id : Uuid) : Option Card :=
  s.cards.find? fun c => c.id == id

/-- The card of a company with an identifier. -/
def cardOf? (s : Store) (company id : Uuid) : Option Card :=
  s.cards.find? fun c => c.id == id && c.companyId == company

/-- The transaction with an identifier. -/
def transaction? (s : Store) (id : Uuid) : Option Transaction :=
  s.transactions.find? fun t => t.id == id

/-- Rows by their time of creation, the newest first, in the order of the stored timestamps. Rows of
one time keep their order. -/
def newestFirst {α : Type} (createdAt : α → Instant) (rows : List α) : List α :=
  rows.mergeSort fun a b => !(createdAt a).storedBefore (createdAt b)

/-- Rows by their time of creation, the oldest first. -/
def oldestFirst {α : Type} (createdAt : α → Instant) (rows : List α) : List α :=
  rows.mergeSort fun a b => !(createdAt b).storedBefore (createdAt a)

/-! ## Adding rows -/

/-- An identifier was already in use. -/
def duplicate (table : String) : Error :=
  .database s!"duplicate identifier in {table}"

/-- The row referred to does not exist. -/
def dangling (table : String) : Error :=
  .database s!"no such row in {table}"

/-- A zero is stored without a sign. -/
def storedAmount (x : Float) : Float :=
  if x == 0 then 0 else x

/-- A limit that is no number is stored as none. -/
def storedLimit (limit : Option Float) : Option Float :=
  (limit.filter fun x => !x.isNaN).map storedAmount

/-- Add a company; its e-mail address has to be new. -/
def insertCompany (s : Store) (c : Company) : Except Error Store :=
  if s.companies.any fun old => old.id == c.id || old.email == c.email then
    .error (duplicate "companies")
  else .ok { s with companies := s.companies ++ [c] }

/-- Add a card of a company; its balance has to be a number. -/
def insertCard (s : Store) (c : Card) : Except Error Store :=
  if s.cards.any fun old => old.id == c.id then .error (duplicate "cards")
  else if (s.company? c.companyId).isNone then .error (dangling "companies")
  else if c.balance.isNaN then .error (.database "a balance has to be a number")
  else .ok { s with cards := s.cards ++ [c] }

/-- Add a row to the issuance queue. -/
def insertQueueRow (s : Store) (r : QueueRow) : Except Error Store :=
  if s.queue.any fun old => old.id == r.id then .error (duplicate "cards_to_issue")
  else if (s.company? r.companyId).isNone then .error (dangling "companies")
  else .ok { s with queue := s.queue ++ [r] }

/-- Add a control of a card. -/
def insertControl (s : Store) (r : ControlRow) : Except Error Store :=
  if s.controls.any fun old => old.id == r.id then .error (duplicate "spending_controls")
  else if (s.card? r.cardId).isNone then .error (dangling "cards")
  else .ok { s with controls := s.controls ++ [r] }

/-! ## Changing rows -/

/-- Change the cards that fit, unless updates are lost; also the number of cards changed. -/
def changeCards (s : Store) (i : Interference) (fits : Card → Bool) (change : Card → Card) :
    Store × Nat :=
  if i.cardUpdatesLost then (s, 0)
  else ({ s with cards := s.cards.map fun c => if fits c then change c else c }, s.cards.countP fits)

/-- Change one card that was read before, and read it again. -/
def changeCard (s : Store) (i : Interference) (id : Uuid) (change : Card → Card) :
    Except Error (Card × Store) :=
  let (s, count) := s.changeCards i (fun c => c.id == id) change
  match s.card? id with
  | some c => if count = 0 then .error (.database "no card updated") else .ok (c, s)
  | none => .error (.database "no card updated")

/-- Let others set the balance of a card. -/
def overwriteBalance (s : Store) (i : Interference) (card : Uuid) : Except Error Store :=
  match i.balanceAfterRecord with
  | none => .ok s
  | some balance =>
      if i.cardUpdatesLost then .ok s
      else if balance.isNaN then .error (.database "a balance has to be a number")
      else
        .ok (s.changeCards i (fun c => c.id == card)
          fun c => { c with balance := storedAmount balance }).1

/-- Add a transaction of a card; others may set the balance of the card right after. -/
def insertTransaction (s : Store) (i : Interference) (t : Transaction) : Except Error Store :=
  if s.transactions.any fun old => old.id == t.id then .error (duplicate "transactions")
  else if (s.card? t.cardId).isNone then .error (dangling "cards")
  else { s with transactions := s.transactions ++ [t] }.overwriteBalance i t.cardId

end Store

end CardLedger
