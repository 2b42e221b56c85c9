import CardLedger.Authorization
import CardLedger.History

/-!
# Records of rows and results

The value trees that callers get: a row under the names of its columns, a page of the history, and a
purchase that was let through. Instants stand as timestamps, identifiers in their written form.
-/

namespace CardLedger

/-- An instant as a value. -/
def Instant.toValue (i : Instant) : Value :=
  .text i.toText

/-- An identifier as a value. -/
def Uuid.toValue (id : Uuid) : Value :=
  .text id.toText

/-- A company under the names of its columns. -/
def Company.toValue (c : Company) : Value :=
  .record
    [("id", c.id.toValue), ("name", .text c.name), ("email", .text c.email),
      ("address", .optional .text c.address), ("phone", .optional .text c.phone),
      ("status", .text c.status.name), ("created_at", c.createdAt.toValue),
      ("updated_at", c.updatedAt.toValue)]

/-- A card under the names of its columns. -/
def Card.toValue (c : Card) : Value :=
  .record
    [("id", c.id.toValue), ("company_id", c.companyId.toValue), ("card_number", .text c.number),
      ("card_holder_name", .text c.holder), ("employee_id", .text c.employeeId),
      ("employee_email", .text c.employeeEmail), ("card_type", .text c.cardType),
      ("status", .text c.status), ("balance", .float c.balance),
      ("spending_limit", .optional .float c.spendingLimit),
      ("daily_limit", .optional .float c.dailyLimit),
      ("monthly_limit", .optional .float c.monthlyLimit), ("expiry_date", c.expiry.toValue),
      ("cvv_hash", .text c.cvvHash), ("last_four", .text c.lastFour),
      ("created_at", c.createdAt.toValue), ("updated_at", c.updatedAt.toValue),
      ("blocked_at", .optional Instant.toValue c.blockedAt),
      ("blocked_reason", .optional .text c.blockedReason)]

/-- A queue row under the names of its columns. -/
def QueueRow.toValue (r : QueueRow) : Value :=
  .record
    [("id", r.id.toValue), ("company_id", r.companyId.toValue), ("card_id", r.cardId.toValue),
      ("employee_id", r.employeeId.toValue), ("employee_email", .text r.employeeEmail),
      ("status", .text r.status.name), ("created_at", r.createdAt.toValue),
      ("updated_at", r.updatedAt.toValue)]

/-- A transaction under the names of its columns. -/
def Transaction.toValue (t : Transaction) : Value :=
  .record
    [("id", t.id.toValue), ("card_id", t.cardId.toValue), ("company_id", t.companyId.toValue),
      ("transaction_type", .text t.type.name), ("amount", .float t.amount),
      ("merchant_name", .optional .text t.merchantName),
      ("merchant_category", .optional .text t.merchantCategory),
      ("description", .text t.description), ("status", .text t.status.name),
      ("processed_at", .optional Instant.toValue t.processedAt),
      ("created_at", t.createdAt.toValue), ("updated_at", t.updatedAt.toValue)]

/-- A control under the names of its columns. -/
def ControlRow.toValue (r : ControlRow) : Value :=
  .record
    [("id", r.id.toValue), ("card_id", r.cardId.toValue), ("control_type", .text r.type),
      ("control_value", r.payload), ("is_active", .bool r.isActive),
      ("created_at", r.createdAt.toValue), ("updated_at", r.updatedAt.toValue)]

/-- A page with its rows and the figures of the whole. -/
def HistoryPage.toValue (page : HistoryPage) : Value :=
  .record
    [("transactions", .list (page.transactions.map Transaction.toValue)),
      ("total", .int page.total), ("page", .int page.page), ("page_size", .int page.pageSize)]

/-- An advisory under its tag. -/
def Advisory.toValue : Advisory → Value
  | .expiringSoon days =>
      .record [("advisory", .text "expiring_soon"), ("days_until_expiry", .int days)]

/-- The figures of what a card has spent. -/
def SpendSnapshot.toValue (s : SpendSnapshot) : Value :=
  .record
    [("today_spending", .float s.today),
      ("remaining_daily_limit", .optional .float s.remainingDaily),
      ("monthly_spending", .float s.thisMonth),
      ("remaining_monthly_limit", .optional .float s.remainingMonthly)]

/-- A purchase that was let through, with its record and the state of the card. -/
def AuthorizedPurchase.toValue (p : AuthorizedPurchase) : Value :=
  .record
    [("transaction", p.transaction.toValue), ("remaining_balance", .float p.remainingBalance),
      ("card_last_four", .text p.cardLastFour), ("spend", p.spend.toValue),
      ("advisories", .list (p.advisories.map Advisory.toValue))]

end CardLedger
