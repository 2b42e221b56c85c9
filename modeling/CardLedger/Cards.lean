import CardLedger.Transactions

/-!
# Cards

Balances, limits and status of cards. A company reaches its own cards only; a card of another
company is the same as no card. A balance is lowered by `Store.debit` alone, which is the check of
sufficient funds that counts.
-/

namespace CardLedger.Store

/-- The card of a company. -/
def getCard (s : Store) (company card : Uuid) : Except Error Card :=
  match s.cardOf? company card with
  | some c => .ok c
  | none => .error (.cardNotFound card)

/-- The cards of a company, the newest first. -/
def listCards (s : Store) (company : Uuid) : List Card :=
  newestFirst (·.createdAt) (s.cards.filter fun c => c.companyId == company)

/-- Lower the balance of a card. The balance read has to cover the amount, and the update is guarded
by the same condition. -/
def debit (s : Store) (a : Ambient) (card : Uuid) (amount : Float) : Except Error (Card × Store) := do
  checkAmount amount
  match s.card? card with
  | none => .error (.cardNotFound card)
  | some read =>
      if read.balance < amount then .error (.insufficientBalance card read.balance amount)
      else
        let (s, count) := s.changeCards a.interference
          (fun c => c.id == card && decide (amount ≤ c.balance))
          fun c => { c with balance := c.balance - amount, updatedAt := a.now }
        if count ≠ 1 then .error (.insufficientBalance card read.balance amount)
        else
          match s.card? card with
          | some c => .ok (c, s)
          | none => .error (.cardNotFound card)

/-- Raise the balance of a card. -/
def credit (s : Store) (a : Ambient) (card : Uuid) (amount : Float) : Except Error (Card × Store) := do
  checkAmount amount
  let (s, count) := s.changeCards a.interference (fun c => c.id == card)
    fun c => { c with balance := c.balance + amount, updatedAt := a.now }
  if count = 0 then .error (.cardNotFound card)
  else
    match s.card? card with
    | some c => .ok (c, s)
    | none => .error (.cardNotFound card)

/-- The charge that goes with a top-up. -/
def topUp (company card : Uuid) (amount : Float) : NewTransaction :=
  { cardId := card, companyId := company, type := .charge, amount, merchantName := none
    merchantCategory := none, description := "Card top-up" }

/-- Load funds onto a card and record the completed charge. -/
def fundCard (s : Store) (a : Ambient) (company card : Uuid) (amount : Float) :
    Except Error (Card × Store) := do
  checkAmount amount
  let _ ← s.getCard company card
  let (record, s) ← s.createTransaction a (topUp company card amount) a.now
  let (funded, s) ← s.credit a card amount
  return (funded, s.updateStatus a record.id .completed)

/-- Overwrite the limit of a single purchase. -/
def setSpendingLimit (s : Store) (a : Ambient) (company card : Uuid) (limit : Float) :
    Except Error (Card × Store) := do
  checkAmount limit
  let _ ← s.getCard company card
  s.changeCard a.interference card fun c =>
    { c with spendingLimit := some limit, updatedAt := a.now }

/-- Overwrite the daily and the monthly limit; none removes a limit. -/
def setPeriodLimits (s : Store) (a : Ambient) (company card : Uuid) (daily monthly : Option Float) :
    Except Error (Card × Store) := do
  checkLimit daily
  checkLimit monthly
  let _ ← s.getCard company card
  s.changeCard a.interference card fun c =>
    { c with dailyLimit := daily, monthlyLimit := monthly, updatedAt := a.now }

/-- Block a card, whatever its status. -/
def blockCard (s : Store) (a : Ambient) (company card : Uuid) (reason : Option String) :
    Except Error (Card × Store) := do
  let _ ← s.getCard company card
  s.changeCard a.interference card fun c =>
    { c with
      status := CardStatus.blocked.name, blockedAt := some a.now, blockedReason := reason
      updatedAt := a.now }

end CardLedger.Store
