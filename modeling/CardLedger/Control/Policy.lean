import CardLedger.Calendar.Offset
import CardLedger.Control.TimeOfDay

/-!
# Evaluation of controls

Category rules come before time windows, whatever the order of the list; the first control that
refuses decides. A time window that cannot be read fails the evaluation when it is reached. The
reserved controls never refuse.
-/

namespace CardLedger

/-- Whether a category is one of a list, normal forms being compared. -/
def listsCategory (entries : List String) (category : String) : Bool :=
  entries.any fun entry => Text.normalize entry == Text.normalize category

/-- The reason why a category rule refuses a category, if it does. -/
def CategoryRule.refusal? (rule : CategoryRule) (category : String) : Option String :=
  let shown := Text.normalize category
  if listsCategory rule.blocked category then
    some s!"Transaction blocked: merchant category '{shown}' is not allowed"
  else if !rule.allowed.isEmpty && !listsCategory rule.allowed category then
    some s!"Transaction blocked: merchant category '{shown}' is not in allowed list"
  else none

/-- Whether a minute of the day lies between two others, both included, going forward around the
clock. -/
def withinClock (opening closing now : Nat) : Bool :=
  if opening ≤ closing then decide (opening ≤ now) && decide (now ≤ closing)
  else decide (opening ≤ now) || decide (now ≤ closing)

/-- The reason why a time window refuses a time of day, if it does. -/
def TimeRule.refusal? (rule : TimeRule) (now : LocalTime) : Except ControlFault (Option String) := do
  let opening ← TimeOfDay.minutes rule.opening
  let closing ← TimeOfDay.minutes rule.closing
  if withinClock opening closing now.minuteOfDay then return none
  else
    let (first, last) := (rule.opening, rule.closing)
    return some s!"Transaction blocked: outside allowed time window ({first} - {last})"

/-- The control that refused a purchase and the reason it gave. -/
structure Violation where
  type : ControlType
  reason : String
  deriving DecidableEq

/-- The reason why a control refuses a purchase, if it does. -/
def ControlValue.refusal? (category : String) (now : LocalTime) :
    ControlValue → Except ControlFault (Option String)
  | .merchantCategory rule => .ok (rule.refusal? category)
  | .timeBased rule => rule.refusal? now
  | .merchantName _ => .ok none
  | .location _ => .ok none

/-- Controls type by type in the order of evaluation, each type in the order of the list. -/
def policyOrder (controls : List ControlValue) : List ControlValue :=
  ControlType.all.flatMap fun kind => controls.filter fun control => control.type == kind

/-- The first refusal of a list of controls taken one after the other. -/
def firstViolation (category : String) (now : LocalTime) :
    List ControlValue → Except ControlFault (Option Violation)
  | [] => .ok none
  | control :: rest =>
      match control.refusal? category now with
      | .error fault => .error fault
      | .ok (some reason) => .ok (some ⟨control.type, reason⟩)
      | .ok none => firstViolation category now rest

/-- The first refusal of controls in policy order. -/
def evaluateControls (controls : List ControlValue) (category : String) (now : LocalTime) :
    Except ControlFault (Option Violation) :=
  firstViolation category now (policyOrder controls)

end CardLedger
