import CardLedger.Cards

/-!
# History

Pages of the transactions of a company or of one of its cards, the newest first. Pages are counted
from one and have at most a hundred rows.
-/

namespace CardLedger

/-- What a caller asks of the history. -/
structure HistoryQuery where
  card : Option Uuid
  page : Int
  pageSize : Int

/-- One page of the history. -/
structure HistoryPage where
  transactions : List Transaction
  /-- The number of rows on all pages. -/
  total : Nat
  page : Nat
  pageSize : Nat

/-- The number of the page that is served. -/
def servedPage (page : Int) : Nat :=
  (max page 1).toNat

/-- The size of the page that is served: twenty unless at least one is asked for, a hundred at most. -/
def servedSize (pageSize : Int) : Nat :=
  if pageSize < 1 then 20 else min pageSize.toNat 100

namespace Store

/-- The transactions that a query asks for; a card has to be the company's. -/
def queried (s : Store) (company : Uuid) : Option Uuid → Except Error (List Transaction)
  | none => .ok (s.transactionsOfCompany company)
  | some card => do
      let _ ← s.getCard company card
      return s.transactionsOfCard card

/-- One page of the history of a company. -/
def history (s : Store) (company : Uuid) (query : HistoryQuery) : Except Error HistoryPage := do
  let page := servedPage query.page
  let size := servedSize query.pageSize
  let rows ← s.queried company query.card
  return ⟨listed rows size ((page - 1) * size), rows.length, page, size⟩

/-- One transaction of a company. -/
def getTransaction (s : Store) (company id : Uuid) : Except Error Transaction :=
  match s.transaction? id with
  | none => .error (.transactionNotFound id)
  | some t =>
      if t.companyId = company then .ok t else .error (.forbidden .otherCompanysTransaction)

end Store

end CardLedger
