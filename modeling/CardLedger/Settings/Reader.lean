import CardLedger.Settings
import CardLedger.Value.Toml.Reader

/-!
# Reading settings

Settings are read from a TOML text. Every section and most fields may be missing and then have their
defaults; unknown fields are ignored. A section may also be a list of its fields in order. What is
read is checked before it is used.
-/

namespace CardLedger

/-- A member of a section, the default being taken where it is missing. -/
def memberOr? {α : Type} (default : α) (read : Value → Option α) : Option Value → Option α
  | none => some default
  | some v => read v

/-- A whole number between two others, both included. -/
def wholeBetween? (low high : Int) (v : Value) : Option Int := do
  let n ← v.int?
  if low ≤ n ∧ n ≤ high then some n else none

/-- A whole number that is not negative and fits in so many bits. -/
def wholeOfBits? (bits : Nat) (v : Value) : Option Nat :=
  (wholeBetween? 0 (Int.pow 2 bits - 1) v).map Int.toNat

/-- A list, each item being read. -/
def listOf? {α : Type} (read : Value → Option α) (v : Value) : Option (List α) := do
  (← v.items?).mapM read

/-- Read the settings of the connections to the store. -/
def DatabaseSettings.ofValue? (v : Value) : Option DatabaseSettings := do
  let member ← v.members?
  let default : DatabaseSettings := {}
  let maxConnections ←
    memberOr? default.maxConnections (wholeOfBits? 32) (member "max_connections" 0)
  return { maxConnections }

/-- Read the settings of purchase authorization. -/
def AuthorizationSettings.ofValue? (v : Value) : Option AuthorizationSettings := do
  let member ← v.members?
  let default : AuthorizationSettings := {}
  let utcOffsetMinutes ←
    memberOr? default.utcOffsetMinutes (wholeBetween? (-Int.pow 2 31) (Int.pow 2 31 - 1))
      (member "utc_offset_minutes" 0)
  let expiryWarningDays ←
    memberOr? default.expiryWarningDays (wholeBetween? (-Int.pow 2 63) (Int.pow 2 63 - 1))
      (member "expiry_warning_days" 1)
  let timeoutMs ← memberOr? default.timeoutMs (wholeOfBits? 64) (member "timeout_ms" 2)
  return { utcOffsetMinutes, expiryWarningDays, timeoutMs }

/-- Read the settings of card issuance. -/
def IssuanceSettings.ofValue? (v : Value) : Option IssuanceSettings := do
  let member ← v.members?
  let default : IssuanceSettings := {}
  let validityYears ← memberOr? default.validityYears (wholeOfBits? 32) (member "validity_years" 0)
  let defaultControls ←
    memberOr? default.defaultControls (listOf? ControlValue.ofTagged?) (member "default_controls" 1)
  return { validityYears, defaultControls }

/-- Read an employee. -/
def EmployeeRecord.ofValue? (v : Value) : Option EmployeeRecord := do
  let member ← v.members?
  let employeeId ← Uuid.ofValue? (← member "employee_id" 0)
  let email ← (← member "employee_email" 1).text?
  return { employeeId, email }

/-- Read a company. -/
def CompanySeed.ofValue? (v : Value) : Option CompanySeed := do
  let member ← v.members?
  let name ← (← member "name" 0).text?
  let email ← (← member "email" 1).text?
  let text := fun v : Value => v.text?.map some
  let address ← memberOr? none text (member "address" 2)
  let phone ← memberOr? none text (member "phone" 3)
  let employees ← memberOr? [] (listOf? EmployeeRecord.ofValue?) (member "employees" 4)
  return { name, email, address, phone, employees }

namespace Settings

/-- Read all settings. -/
def ofValue? (v : Value) : Option Settings := do
  let member ← v.members?
  let database ← memberOr? {} DatabaseSettings.ofValue? (member "database" 0)
  let authorization ← memberOr? {} AuthorizationSettings.ofValue? (member "authorization" 1)
  let issuance ← memberOr? {} IssuanceSettings.ofValue? (member "issuance" 2)
  let companies ← memberOr? [] (listOf? CompanySeed.ofValue?) (member "companies" 3)
  return { database, authorization, issuance, companies }

/-- Read settings from a text and check them. -/
def parse (text : String) : Except Error Settings := do
  match Value.ofToml? text >>= ofValue? with
  | none => .error (.config .malformed)
  | some settings =>
      settings.validate
      return settings

/-- The settings of a file, given its text or the reason why it cannot be read. -/
def ofFile (path : String) : Except String String → Except Error Settings
  | .ok text => parse text
  | .error reason => .error (.config (.unreadable path reason))

end Settings

end CardLedger
