import CardLedger.Calendar.Offset
import CardLedger.Control.Basic
import CardLedger.Number.Sum

/-!
# Denials

Why a purchase was refused before any money moved, with the figures that explain the refusal.
-/

namespace CardLedger

/-- The figures of a daily or monthly limit that a purchase would exceed. -/
structure LimitBreach where
  limit : Float
  spent : Float
  amount : Float
  total : Float
  remaining : Float
  deriving DecidableEq

/-- The figures of a purchase on top of what was spent. -/
def LimitBreach.of (limit spent amount : Float) : LimitBreach :=
  { limit, spent, amount, total := spent + amount, remaining := limit - spent }

/-- Why a purchase was refused. -/
inductive Denial where
  | cardInactive (status detail : String)
  | cardExpired (expiry : Date)
  | insufficientBalance (available required shortage : Float)
  | spendingLimitExceeded (limit amount : Float)
  | dailyLimitExceeded (breach : LimitBreach)
  | monthlyLimitExceeded (breach : LimitBreach)
  | controlViolation (control : ControlType) (reason category time zone : String)
  deriving DecidableEq

namespace Denial

/-- The machine-readable reason. -/
def category : Denial → String
  | .cardInactive .. => "card_inactive"
  | .cardExpired .. => "card_expired"
  | .insufficientBalance .. => "insufficient_balance"
  | .spendingLimitExceeded .. => "spending_limit_exceeded"
  | .dailyLimitExceeded .. => "daily_limit_exceeded"
  | .monthlyLimitExceeded .. => "monthly_limit_exceeded"
  | .controlViolation .. => "control_violation"

/-- The reason in words. -/
def message : Denial → String
  | .cardInactive _ detail => detail
  | .cardExpired _ => "Card has expired"
  | .insufficientBalance .. => "Insufficient balance"
  | .spendingLimitExceeded .. => "Transaction exceeds spending limit"
  | .dailyLimitExceeded _ => "Transaction would exceed daily limit"
  | .monthlyLimitExceeded _ => "Transaction would exceed monthly limit"
  | .controlViolation _ reason _ _ _ => reason

/-- The figures of a limit breach as fields. -/
def breachFields (b : LimitBreach) : List (String × Value) :=
  [("limit", .float b.limit), ("current_spending", .float b.spent),
    ("transaction_amount", .float b.amount), ("total_would_be", .float b.total),
    ("remaining_limit", .float b.remaining)]

/-- The figures of a denial as fields. -/
def contextFields : Denial → List (String × Value)
  | .cardInactive status detail => [("status", .text status), ("detail", .text detail)]
  | .cardExpired expiry => [("expiry_date", .text expiry.toText)]
  | .insufficientBalance available required shortage =>
      [("available_balance", .float available), ("required_amount", .float required),
        ("shortage", .float shortage)]
  | .spendingLimitExceeded limit amount =>
      [("spending_limit", .float limit), ("amount", .float amount)]
  | .dailyLimitExceeded b => breachFields b
  | .monthlyLimitExceeded b => breachFields b
  | .controlViolation control reason category time zone =>
      [("control_type", .text control.name), ("reason", .text reason),
        ("merchant_category", .text category), ("current_time", .text time), ("timezone", .text zone)]

/-- The record that a client gets: the reason in words, its category, and the figures. -/
def response (d : Denial) : Value :=
  .record (("message", .text d.message) :: ("reason_category", .text d.category) :: d.contextFields)

end Denial

end CardLedger
