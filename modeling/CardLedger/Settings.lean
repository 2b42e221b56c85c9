import CardLedger.Calendar.Offset
import CardLedger.Control.Payload
import CardLedger.Error

/-!
# Settings

The settings of the ledger, their defaults and their checks.
-/

namespace CardLedger

/-- Settings of the connections to the store. -/
structure DatabaseSettings where
  maxConnections : Nat := 8

/-- Settings of purchase authorization. -/
structure AuthorizationSettings where
  utcOffsetMinutes : Int := 540
  expiryWarningDays : Int := 30
  timeoutMs : Nat := 5000

/-- Settings of card issuance. -/
structure IssuanceSettings where
  validityYears : Nat := 3
  defaultControls : List ControlValue := []

/-- An employee of a company to onboard. -/
structure EmployeeRecord where
  employeeId : Uuid
  email : String
  deriving DecidableEq

/-- A company to onboard. -/
structure CompanySeed where
  name : String
  email : String
  address : Option String
  phone : Option String
  employees : List EmployeeRecord
  deriving DecidableEq

/-- All settings. -/
structure Settings where
  database : DatabaseSettings := {}
  authorization : AuthorizationSettings := {}
  issuance : IssuanceSettings := {}
  companies : List CompanySeed := []

/-- The business offset. -/
def AuthorizationSettings.offset (settings : AuthorizationSettings) : Except Error Offset :=
  match Offset.ofMinutes? settings.utcOffsetMinutes with
  | some o => .ok o
  | none => .error (.config (.offsetOutOfRange settings.utcOffsetMinutes))

/-- Check that a setting is not zero. -/
def checkPositive (key : String) (n : Nat) : Except Error Unit :=
  if n = 0 then .error (.config (.notPositive key)) else .ok ()

/-- Check controls one after the other. -/
def checkControls : List ControlValue → Except Error Unit
  | [] => .ok ()
  | control :: rest => do
      liftFault .controlConfig control.validate
      checkControls rest

/-- Check the settings in a fixed order. -/
def Settings.validate (settings : Settings) : Except Error Unit := do
  checkPositive "database.max_connections" settings.database.maxConnections
  let _ ← settings.authorization.offset
  checkPositive "authorization.timeout_ms" settings.authorization.timeoutMs
  checkPositive "issuance.validity_years" settings.issuance.validityYears
  checkControls settings.issuance.defaultControls

end CardLedger
