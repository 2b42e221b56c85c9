import CardLedger.Cards
import CardLedger.Control.Payload

/-!
# Controls of cards

A card has at most one active control of each type as long as controls are set by `upsertControl`:
setting a type again overwrites the payload of the active row. Rows are deactivated, never removed.
-/

namespace CardLedger

/-- Whether a row is an active control of a card and a type. -/
def ControlRow.isActiveOf (r : ControlRow) (card : Uuid) (kind : ControlType) : Bool :=
  r.cardId == card && r.type == kind.name && r.isActive

/-- The payload of a control as it stands in its column once it is written. -/
def Ambient.writtenPayload (a : Ambient) (v : ControlValue) : Except Error Value :=
  match a.jsonColumn v.toPayload with
  | some payload => .ok payload
  | none => .error (.database "a payload cannot be read back")

namespace Store

/-- The first active row of a card and a type. -/
def activeControl? (s : Store) (card : Uuid) (kind : ControlType) : Option ControlRow :=
  s.controls.find? fun r => r.isActiveOf card kind

/-- Set a control of a card, under a fresh identifier if the type has no active row yet. -/
def putControl (s : Store) (a : Ambient) (fresh card : Uuid) (v : ControlValue) :
    Except Error (ControlRow × Store) := do
  liftFault .controlConfig v.validate
  let payload ← a.writtenPayload v
  match s.activeControl? card v.type with
  | some old =>
      let row := { old with payload, updatedAt := a.now }
      return (row, { s with controls := s.controls.map fun r => if r.id == old.id then row else r })
  | none =>
      let row : ControlRow :=
        { id := fresh, cardId := card, type := v.type.name, payload, isActive := true
          createdAt := a.now, updatedAt := a.now }
      return (row, ← s.insertControl row)

/-- Set a control of a company's card. -/
def upsertControl (s : Store) (a : Ambient) (company card : Uuid) (v : ControlValue) :
    Except Error (ControlRow × Store) := do
  liftFault .controlConfig v.validate
  let _ ← s.getCard company card
  s.putControl a (a.freshId 0) card v

/-- The active controls of a card, the oldest first. -/
def activeControls (s : Store) (card : Uuid) : List ControlRow :=
  oldestFirst (·.createdAt) (s.controls.filter fun r => r.cardId == card && r.isActive)

/-- The active controls of a card, decoded; a single one that cannot be decoded fails all. -/
def activeControlValues (s : Store) (card : Uuid) : Except Error (List ControlValue) :=
  (s.activeControls card).mapM fun r =>
    liftFault .controlConfig (ControlValue.ofStored r.type r.payload)

/-- Deactivate the controls of a type of a company's card; whether there were any. -/
def deactivateControl (s : Store) (a : Ambient) (company card : Uuid) (kind : ControlType) :
    Except Error (Bool × Store) := do
  let _ ← s.getCard company card
  let fits := fun r : ControlRow => r.isActiveOf card kind
  return (s.controls.any fits,
    { s with
      controls := s.controls.map fun r =>
        if fits r then { r with isActive := false, updatedAt := a.now } else r })

end Store

end CardLedger
