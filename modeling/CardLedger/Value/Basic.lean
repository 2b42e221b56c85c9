/-!
# Value trees

Untyped values as they stand in control payloads, settings and written results: scalars, lists, and
records of named fields. Whole and fractional numbers are different values.
-/

namespace CardLedger

/-- An untyped value. -/
inductive Value where
  | null
  | bool (b : Bool)
  | int (n : Int)
  | float (x : Float)
  | text (s : String)
  | list (items : List Value)
  | record (fields : List (String × Value))
  deriving Inhabited

namespace Value

/-- The field of a record; nothing if there is no such field or the value is no record. -/
def field? : Value → String → Option Value
  | .record fields, name => fields.lookup name
  | _, _ => none

/-- The field of a record, a null field being the same as none. -/
def given? (v : Value) (name : String) : Option Value :=
  match v.field? name with
  | some .null => none
  | found => found

/-- Whether the value is a record. -/
def isRecord : Value → Bool
  | .record _ => true
  | _ => false

/-- The text of a text value. -/
def text? : Value → Option String
  | .text s => some s
  | _ => none

/-- The number of a whole value. -/
def int? : Value → Option Int
  | .int n => some n
  | _ => none

/-- The items of a list. -/
def items? : Value → Option (List Value)
  | .list items => some items
  | _ => none

/-- The texts of a list that holds nothing else. -/
def texts? (v : Value) : Option (List String) := do
  (← v.items?).mapM text?

/-- The members of a structured value. A record gives them by name, a list by their position. -/
def members? : Value → Option (String → Nat → Option Value)
  | .record fields => some fun name _ => fields.lookup name
  | .list items => some fun _ position => items[position]?
  | _ => none

/-- Replace or add a field at the end of a list of fields. -/
def setField (name : String) (v : Value) : List (String × Value) → List (String × Value)
  | [] => [(name, v)]
  | (key, old) :: rest => if key = name then (name, v) :: rest else (key, old) :: setField name v rest

/-- An optional value, null when it is absent. -/
def optional {α : Type} (form : α → Value) : Option α → Value
  | some a => form a
  | none => .null

end Value

end CardLedger
