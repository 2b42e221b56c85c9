import CardLedger.Control.Basic

/-!
# Faults of controls

Why a control, or the text it was written as, cannot be used.
-/

namespace CardLedger

/-- Why a text is no time of day. -/
inductive TimeFault where
  | shape
  | hour
  | minute
  deriving DecidableEq

/-- The wording of a fault of a time of day. -/
def TimeFault.message : TimeFault → String
  | .shape => "expected HH:MM"
  | .hour => "hour must be between 0 and 23"
  | .minute => "minute must be between 0 and 59"

/-- Why a control cannot be used. -/
inductive ControlFault where
  /-- There is no control type of this name. -/
  | unknownType (name : String)
  /-- The payload does not have the shape of its type. -/
  | wrongPayload (kind : ControlType)
  /-- A text is no time of day. -/
  | wrongTime (text : String) (fault : TimeFault)
  /-- The payload of a reserved control is no record. -/
  | notRecord (kind : ControlType)
  /-- A fault told by a service around the ledger in its own words. -/
  | told (text : String)
  deriving DecidableEq

/-- The wording of a fault. -/
def ControlFault.message : ControlFault → String
  | .unknownType name => s!"unknown control type '{name}'"
  | .wrongPayload kind => s!"invalid {kind} control payload"
  | .wrongTime text fault => s!"invalid time '{text}': " ++ fault.message
  | .notRecord kind => s!"{kind} payload must be a JSON object"
  | .told text => text

end CardLedger
