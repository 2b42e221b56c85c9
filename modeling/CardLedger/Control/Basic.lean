import CardLedger.Value.Basic

/-!
# Spending controls

A card can carry one active control of each type. Category rules and time windows decide about
purchases; the other two types are reserved, their payloads are kept as they are.
-/

namespace CardLedger

/-- The types of spending control. -/
inductive ControlType where
  | merchantCategory
  | timeBased
  | merchantName
  | location
  deriving DecidableEq

namespace ControlType

/-- All types, in the order in which controls are evaluated. -/
def all : List ControlType :=
  [.merchantCategory, .timeBased, .merchantName, .location]

/-- The name of a type in the store and in payloads. -/
def name : ControlType → String
  | .merchantCategory => "merchant_category"
  | .timeBased => "time_based"
  | .merchantName => "merchant_name"
  | .location => "location"

instance : ToString ControlType := ⟨name⟩

/-- The type of a name. -/
def ofName? (text : String) : Option ControlType :=
  all.find? fun kind => kind.name == text

end ControlType

/-- Merchant categories that are let through and that are refused. An empty list of allowed ones
does not restrict. -/
structure CategoryRule where
  allowed : List String
  blocked : List String
  deriving DecidableEq

/-- The times of day at which a purchase window opens and closes, as hours and minutes. -/
structure TimeRule where
  opening : String
  closing : String
  deriving DecidableEq

/-- A control with its decoded payload. -/
inductive ControlValue where
  | merchantCategory (rule : CategoryRule)
  | timeBased (rule : TimeRule)
  | merchantName (payload : Value)
  | location (payload : Value)

/-- The type of a control. -/
def ControlValue.type : ControlValue → ControlType
  | .merchantCategory _ => .merchantCategory
  | .timeBased _ => .timeBased
  | .merchantName _ => .merchantName
  | .location _ => .location

end CardLedger
