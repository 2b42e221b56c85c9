import CardLedger.Store.Basic
import CardLedger.Text.Normal

/-!
# Companies

Registration and status of companies. A company is known by its e-mail address in normal form.
-/

namespace CardLedger

/-- What a caller says of a new company. -/
structure NewCompany where
  name : String
  email : String
  address : Option String
  phone : Option String

/-- Whether a text has something in front of its first at sign and a dot behind it. -/
def isEmail (text : String) : Bool :=
  match Text.splitAtFirst? '@' text.toList with
  | some (front, back) => !front.isEmpty && back.contains '.'
  | none => false

/-- Check the details of a new company. -/
def NewCompany.validate (new : NewCompany) : Except Error Unit :=
  let length := (Text.trim new.name).length
  if length < 2 ∨ 255 < length then .error (.invalidInput .companyNameLength)
  else if !isEmail (Text.trim new.email) then
    .error (.invalidInput (.companyEmail (Text.trim new.email)))
  else .ok ()

namespace Store

/-- The company with an e-mail address, normal forms being compared. -/
def companyByEmail? (s : Store) (email : String) : Option Company :=
  s.companies.find? fun c => c.email == Text.normalize email

/-- The company with an identifier. -/
def getCompany (s : Store) (company : Uuid) : Except Error Company :=
  match s.company? company with
  | some c => .ok c
  | none => .error (.companyNotFound company)

/-- Register a company, active from the start. -/
def registerCompany (s : Store) (a : Ambient) (new : NewCompany) : Except Error (Company × Store) := do
  new.validate
  let email := Text.normalize new.email
  if (s.companyByEmail? email).isSome then .error (.companyExists email)
  else
    let company : Company :=
      { id := a.freshId 0, name := Text.trim new.name, email, address := new.address
        phone := new.phone, status := .active, createdAt := a.now, updatedAt := a.now }
    return (company, ← s.insertCompany company)

/-- Change the status of a company. -/
def setCompanyStatus (s : Store) (a : Ambient) (company : Uuid) (status : CompanyStatus) :
    Except Error (Company × Store) := do
  let old ← s.getCompany company
  let changed := { old with status, updatedAt := a.now }
  return (changed,
    { s with companies := s.companies.map fun c => if c.id == company then changed else c })

/-- Check that a company exists and is active. -/
def checkActive (s : Store) (company : Uuid) : Except Error Unit := do
  let c ← s.getCompany company
  if c.status = .active then .ok () else .error (.companyInactive company)

end Store

end CardLedger
