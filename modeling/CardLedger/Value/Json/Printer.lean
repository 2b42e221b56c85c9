import CardLedger.Number.Notation
import CardLedger.Value.Basic

/-!
# JSON texts of value trees

The JSON text of a value on one line, without blanks. Numbers other than finite ones are written
as null.
-/

namespace CardLedger.Value

/-- The lower-case hexadecimal digit of a number below sixteen. -/
def hexDigit (n : Nat) : Char :=
  Nat.digitChar n

/-- The form of a character inside a JSON string. -/
def escapeChar (c : Char) : List Char :=
  if c = '"' then ['\\', '"']
  else if c = '\\' then ['\\', '\\']
  else if c = '\n' then ['\\', 'n']
  else if c = '\r' then ['\\', 'r']
  else if c = '\t' then ['\\', 't']
  else if c.toNat < 0x20 then
    ['\\', 'u', '0', '0', hexDigit (c.toNat / 16), hexDigit (c.toNat % 16)]
  else [c]

/-- A text as a JSON string. -/
def quoted (s : String) : String :=
  "\"" ++ String.ofList (s.toList.flatMap escapeChar) ++ "\""

/-- A number as JSON. -/
def floatText (x : Float) : String :=
  if x.isFinite then Number.exact x else "null"

mutual

/-- The JSON text of a value. -/
def toJson : Value → String
  | .null => "null"
  | .bool b => if b then "true" else "false"
  | .int n => toString n
  | .float x => floatText x
  | .text s => quoted s
  | .list items => "[" ++ itemsToJson items ++ "]"
  | .record fields => "\x7b" ++ fieldsToJson fields ++ "\x7d"

/-- The JSON texts of the items of a list with commas between them. -/
def itemsToJson : List Value → String
  | [] => ""
  | [v] => v.toJson
  | v :: rest => v.toJson ++ "," ++ itemsToJson rest

/-- The JSON texts of the fields of a record with commas between them. -/
def fieldsToJson : List (String × Value) → String
  | [] => ""
  | [(name, v)] => quoted name ++ ":" ++ v.toJson
  | (name, v) :: rest => quoted name ++ ":" ++ v.toJson ++ "," ++ fieldsToJson rest

end

end CardLedger.Value
