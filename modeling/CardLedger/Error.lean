import CardLedger.Calendar.Window
import CardLedger.Control.Fault
import CardLedger.Denial
import CardLedger.Uuid

/-!
# Errors

Every way in which an operation can fail, its wording, its kind, and what a client is told of it.
Conflicts and internal failures keep their details to themselves.
-/

namespace CardLedger

/-- Why a caller may not do something. -/
inductive ForbiddenCause where
  /-- The request names another company than the caller's. -/
  | otherCompany
  /-- The transaction is another company's. -/
  | otherCompanysTransaction
  | told (text : String)
  deriving DecidableEq

/-- What is wrong with the input of an operation. -/
inductive InputFault where
  | categoryMissing
  | companyNameLength
  | companyEmail (email : String)
  | noEmployees
  /-- The employee at this position, counted from one, has no e-mail address. -/
  | employeeEmail (position : Nat)
  | told (text : String)
  deriving DecidableEq

/-- What is wrong with the settings, or what follows from them. -/
inductive ConfigFault where
  | notPositive (key : String)
  | offsetOutOfRange (minutes : Int)
  | unreadable (path reason : String)
  | malformed
  | window (fault : WindowFault)
  | validityOverflow (years : Nat)
  | told (text : String)
  deriving DecidableEq

/-- Why an operation failed. -/
inductive Error where
  | cardNotFound (card : Uuid)
  | companyNotFound (company : Uuid)
  | transactionNotFound (transaction : Uuid)
  | forbidden (cause : ForbiddenCause)
  | denied (denial : Denial)
  /-- The balance does not cover a debit. -/
  | insufficientBalance (card : Uuid) (available required : Float)
  /-- The balance did not cover a purchase any more when it was to be committed. -/
  | commitConflict (card : Uuid) (available required : Float)
  | invalidAmount (amount : Float)
  | invalidInput (fault : InputFault)
  | companyExists (email : String)
  | companyInactive (company : Uuid)
  | nothingToIssue (company : Uuid)
  | controlConfig (fault : ControlFault)
  | config (fault : ConfigFault)
  | timeout (milliseconds : Nat)
  | database (text : String)
  | serialization (text : String)
  | io (text : String)
  deriving DecidableEq

/-- A coarse classification of errors. -/
inductive ErrorKind where
  | notFound
  | forbidden
  | denied
  | conflict
  | invalidInput
  | internal
  deriving DecidableEq

/-- The wording of a cause. -/
def ForbiddenCause.message : ForbiddenCause → String
  | .otherCompany => "Company ID does not match the authenticated company"
  | .otherCompanysTransaction => "Transaction belongs to another company"
  | .told text => text

/-- The wording of an input fault. -/
def InputFault.message : InputFault → String
  | .categoryMissing => "Merchant category is required"
  | .companyNameLength => "Company name must be between 2 and 255 characters"
  | .companyEmail email => s!"Invalid email address: {email}"
  | .noEmployees => "No employee records to queue"
  | .employeeEmail position => s!"Empty employee email in record {position}"
  | .told text => text

/-- The wording of a settings fault. -/
def ConfigFault.message : ConfigFault → String
  | .notPositive key => s!"{key} must be positive"
  | .offsetOutOfRange minutes => s!"utc_offset_minutes out of range: {minutes}"
  | .unreadable path reason => s!"Failed to read config file {path}: {reason}"
  | .malformed => "Failed to parse config.toml"
  | .window fault => fault.message
  | .validityOverflow years => s!"card validity of {years} years overflows"
  | .told text => text

namespace Error

/-- The wording of an error. -/
def message : Error → String
  | .cardNotFound card => s!"Card not found: {card}"
  | .companyNotFound company => s!"Company not found: {company}"
  | .transactionNotFound transaction => s!"Transaction not found: {transaction}"
  | .forbidden cause => "Forbidden: " ++ cause.message
  | .denied denial => "Transaction denied: " ++ denial.message
  | .insufficientBalance card available required =>
      s!"Insufficient balance on card {card}: available " ++ Number.message available ++
        ", required " ++ Number.message required
  | .commitConflict card available required =>
      s!"Balance changed before commit on card {card}: available " ++ Number.message available ++
        ", required " ++ Number.message required
  | .invalidAmount amount => "Invalid amount: " ++ Number.message amount
  | .invalidInput fault => "Invalid input: " ++ fault.message
  | .companyExists email => s!"Company already exists: {email}"
  | .companyInactive company => s!"Company {company} is not active"
  | .nothingToIssue company => s!"No pending cards to issue for company {company}"
  | .controlConfig fault => "Invalid spending control configuration: " ++ fault.message
  | .config fault => "Configuration error: " ++ fault.message
  | .timeout milliseconds => s!"Operation timed out after {milliseconds} ms"
  | .database text => s!"Database error: {text}"
  | .serialization text => s!"Serialization error: {text}"
  | .io text => s!"I/O error: {text}"

/-- The kind of an error. -/
def kind : Error → ErrorKind
  | .cardNotFound _ | .companyNotFound _ | .transactionNotFound _ => .notFound
  | .forbidden _ => .forbidden
  | .denied _ => .denied
  | .commitConflict .. => .conflict
  | .invalidAmount _ | .invalidInput _ | .companyExists _ | .companyInactive _
  | .nothingToIssue _ => .invalidInput
  | .insufficientBalance .. | .controlConfig _ | .config _ | .timeout _ | .database _
  | .serialization _ | .io _ => .internal

/-- What a client may be told of an error. -/
def publicMessage (e : Error) : String :=
  match e with
  | .denied denial => denial.message
  | _ =>
      match e.kind with
      | .conflict | .internal => "The transaction could not be processed, please try again"
      | _ => e.message

/-- Whether an error stands for a panic, which ends a call without an answer. -/
def isPanic : Error → Bool
  | .config (.window (.noLocalDate _ _)) => true
  | _ => false

end Error

/-- How a call ends: it returns, or it panics and returns nothing. -/
inductive CallEnd (α : Type) where
  | returned (result : Except Error α)
  | panicked

/-- The ending of a call whose outcome is known. -/
def CallEnd.of {α : Type} : Except Error α → CallEnd α
  | .ok a => .returned (.ok a)
  | .error e => if e.isPanic then .panicked else .returned (.error e)

/-- Lift the faults of one part of the ledger to errors. -/
def liftFault {φ α : Type} (lift : φ → Error) : Except φ α → Except Error α
  | .ok a => .ok a
  | .error fault => .error (lift fault)

end CardLedger
