import CardLedger.Control.TimeOfDay

/-!
# Payloads of controls

The two written forms of a control. In the store it is a type name and a payload; in settings it is
one record with the type name among the fields, or a list with the type name in front. A payload
may be a record of named fields or a list of the fields in order. Fields of a category rule may be
missing, unknown fields are ignored.
-/

namespace CardLedger

/-- A list of texts that may be missing. -/
def textsOrNone? : Option Value → Option (List String)
  | none => some []
  | some v => v.texts?

/-- A structured value of at most so many fields; unknown names in a record do not count. -/
def fieldsUpTo? (count : Nat) (payload : Value) : Option (String → Nat → Option Value) :=
  match payload with
  | .list items => if items.length ≤ count then payload.members? else none
  | _ => payload.members?

/-- The category rule of a payload. -/
def CategoryRule.ofPayload? (payload : Value) : Option CategoryRule := do
  let member ← fieldsUpTo? 2 payload
  let allowed ← textsOrNone? (member "allowed_categories" 0)
  let blocked ← textsOrNone? (member "blocked_categories" 1)
  return ⟨allowed, blocked⟩

/-- The time window of a payload. -/
def TimeRule.ofPayload? (payload : Value) : Option TimeRule := do
  let member ← fieldsUpTo? 2 payload
  let opening ← (← member "start_time" 0).text?
  let closing ← (← member "end_time" 1).text?
  return ⟨opening, closing⟩

namespace ControlValue

/-- The control of a type with a payload. -/
def ofPayload? (payload : Value) : ControlType → Option ControlValue
  | .merchantCategory => (CategoryRule.ofPayload? payload).map .merchantCategory
  | .timeBased => (TimeRule.ofPayload? payload).map .timeBased
  | .merchantName => some (.merchantName payload)
  | .location => some (.location payload)

/-- Decode a stored pair of type name and payload. -/
def ofStored (name : String) (payload : Value) : Except ControlFault ControlValue :=
  match ControlType.ofName? name with
  | none => .error (.unknownType name)
  | some kind =>
      match ofPayload? payload kind with
      | some v => .ok v
      | none => .error (.wrongPayload kind)

/-- Encode the payload of a control for the store. -/
def toPayload : ControlValue → Value
  | .merchantCategory rule =>
      .record [("allowed_categories", .list (rule.allowed.map .text)),
        ("blocked_categories", .list (rule.blocked.map .text))]
  | .timeBased rule => .record [("start_time", .text rule.opening), ("end_time", .text rule.closing)]
  | .merchantName payload => payload
  | .location payload => payload

/-- The name of the field that holds the type in the tagged form. -/
def tag : String := "control_type"

/-- The control of a type name that stands next to its payload. -/
def ofTag? (name payload : Value) : Option ControlValue := do
  ofPayload? payload (← ControlType.ofName? (← name.text?))

/-- Decode the tagged form: a record that holds the type name among the payload's fields, or a list
that holds it in front of the payload's items. -/
def ofTagged? : Value → Option ControlValue
  | .record fields => do
      let name ← fields.lookup tag
      ofTag? name (.record (fields.filter fun field => field.1 != tag))
  | .list (name :: items) => ofTag? name (.list items)
  | _ => none

/-- Encode the tagged form. Only a record, or nothing at all, can stand next to the type name. -/
def toTagged? (v : ControlValue) : Option Value :=
  let name : Value := .text v.type.name
  match v.toPayload with
  | .record fields =>
      some (.record (fields.foldl (fun done field => Value.setField field.1 field.2 done) [(tag, name)]))
  | .null => some (.record [(tag, name)])
  | _ => none

/-- Check a control before it is stored: both times have to be times of day, and the payload of a
reserved control has to be a record. -/
def validate (v : ControlValue) : Except ControlFault Unit :=
  match v with
  | .merchantCategory _ => .ok ()
  | .timeBased rule => do
      let _ ← TimeOfDay.minutes rule.opening
      let _ ← TimeOfDay.minutes rule.closing
      return ()
  | .merchantName payload => if payload.isRecord then .ok () else .error (.notRecord v.type)
  | .location payload => if payload.isRecord then .ok () else .error (.notRecord v.type)

end ControlValue

end CardLedger
