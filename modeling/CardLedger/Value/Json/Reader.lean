import CardLedger.Number.Reading
import CardLedger.Value.Basic

/-!
# Reading JSON texts

The value that a JSON text stands for. A number written without point and exponent is whole if it
fits in 64 bits, signed or unsigned; every other number, and a minus zero, is a fractional one, taken
the quick way. Of two fields of one name the last counts.
-/

namespace CardLedger.Value

/-- Skip JSON blanks. -/
def skipBlanks (cs : List Char) : List Char :=
  cs.dropWhile fun c => c = ' ' || c = '\t' || c = '\n' || c = '\r'

/-- The value of a hexadecimal digit. -/
def hexValue? (c : Char) : Option Nat :=
  if c.isDigit then some (c.toNat - '0'.toNat)
  else if 'a' ≤ c ∧ c ≤ 'f' then some (c.toNat - 'a'.toNat + 10)
  else if 'A' ≤ c ∧ c ≤ 'F' then some (c.toNat - 'A'.toNat + 10)
  else none

/-- The number written by hexadecimal digits. -/
def ofHexDigits? (cs : List Char) : Option Nat :=
  cs.foldlM (fun n c => (hexValue? c).map (16 * n + ·)) 0

/-- Read four hexadecimal digits. -/
def readUnit? : List Char → Option (Nat × List Char)
  | a :: b :: c :: d :: rest => (ofHexDigits? [a, b, c, d]).map (·, rest)
  | _ => none

/-- The character of a code point, unless it is half of a surrogate pair. -/
def charOfCode? (code : Nat) : Option Char :=
  if code.isValidChar then some (Char.ofNat code) else none

/-- Read the character behind a backslash and a u; two halves of a surrogate pair are one. -/
def readUnicode? (cs : List Char) : Option (Char × List Char) := do
  let (unit, rest) ← readUnit? cs
  if 0xD800 ≤ unit ∧ unit < 0xDC00 then
    match rest with
    | '\\' :: 'u' :: low =>
        let (second, rest) ← readUnit? low
        if 0xDC00 ≤ second ∧ second < 0xE000 then
          let c ← charOfCode? (0x10000 + (unit - 0xD800) * 0x400 + (second - 0xDC00))
          some (c, rest)
        else none
    | _ => none
  else
    let c ← charOfCode? unit
    some (c, rest)

/-- The character named by the letter behind a backslash. -/
def escaped? : Char → Option Char
  | '"' => some '"'
  | '\\' => some '\\'
  | '/' => some '/'
  | 'b' => some '\x08'
  | 'f' => some '\x0c'
  | 'n' => some '\n'
  | 'r' => some '\r'
  | 't' => some '\t'
  | _ => none

/-- Read the rest of a string up to its closing quote; `done` holds what was read, reversed. -/
def readString? : Nat → List Char → List Char → Option (String × List Char)
  | 0, _, _ => none
  | _ + 1, _, [] => none
  | _ + 1, done, '"' :: rest => some (String.ofList done.reverse, rest)
  | fuel + 1, done, '\\' :: 'u' :: rest => do
      let (c, rest) ← readUnicode? rest
      readString? fuel (c :: done) rest
  | fuel + 1, done, '\\' :: c :: rest => do
      readString? fuel ((← escaped? c) :: done) rest
  | fuel + 1, done, c :: rest =>
      if c.toNat < 0x20 ∨ c = '\\' then none else readString? fuel (c :: done) rest

/-- The value of a number literal, if it is in range. -/
def ofLiteral? (l : Number.Literal) : Option Value :=
  let size : Int := Number.ofDigits l.whole
  if l.isWhole ∧ l.negative ∧ 0 < size ∧ size ≤ Int.pow 2 63 then some (.int (-size))
  else if l.isWhole ∧ ¬ l.negative ∧ size < Int.pow 2 64 then some (.int size)
  else l.quick?.map .float

/-- Read a number; a leading zero stands alone. -/
def readNumber? (cs : List Char) : Option (Value × List Char) := do
  let (negative, rest) :=
    match cs with
    | '-' :: rest => (true, rest)
    | cs => (false, cs)
  let (literal, rest) ← Number.readLiteral? negative rest
  match literal.whole with
  | '0' :: _ :: _ => none
  | _ => (ofLiteral? literal).map (·, rest)

mutual

/-- Read a value. -/
def readValue? : Nat → List Char → Option (Value × List Char)
  | 0, _ => none
  | fuel + 1, cs =>
      match skipBlanks cs with
      | 'n' :: 'u' :: 'l' :: 'l' :: rest => some (.null, rest)
      | 't' :: 'r' :: 'u' :: 'e' :: rest => some (.bool true, rest)
      | 'f' :: 'a' :: 'l' :: 's' :: 'e' :: rest => some (.bool false, rest)
      | '"' :: rest => (readString? (rest.length + 1) [] rest).map fun (s, rest) => (.text s, rest)
      | '[' :: rest =>
          match skipBlanks rest with
          | ']' :: rest => some (.list [], rest)
          | rest => (readItems? fuel [] rest).map fun (items, rest) => (.list items, rest)
      | '\x7b' :: rest =>
          match skipBlanks rest with
          | '\x7d' :: rest => some (.record [], rest)
          | rest => (readFields? fuel [] rest).map fun (fields, rest) => (.record fields, rest)
      | rest => readNumber? rest

/-- Read the items of a list up to its closing bracket; `done` holds those read, reversed. -/
def readItems? : Nat → List Value → List Char → Option (List Value × List Char)
  | 0, _, _ => none
  | fuel + 1, done, cs => do
      let (v, rest) ← readValue? fuel cs
      match skipBlanks rest with
      | ',' :: rest => readItems? fuel (v :: done) rest
      | ']' :: rest => some ((v :: done).reverse, rest)
      | _ => none

/-- Read the fields of a record up to its closing brace. -/
def readFields? : Nat → List (String × Value) → List Char → Option (List (String × Value) × List Char)
  | 0, _, _ => none
  | fuel + 1, done, cs =>
      match skipBlanks cs with
      | '"' :: rest => do
          let (name, rest) ← readString? (rest.length + 1) [] rest
          match skipBlanks rest with
          | ':' :: rest =>
              let (v, rest) ← readValue? fuel rest
              let fields := setField name v done
              match skipBlanks rest with
              | ',' :: rest => readFields? fuel fields rest
              | '\x7d' :: rest => some (fields, rest)
              | _ => none
          | _ => none
      | _ => none

end

/-- The value of a whole JSON text. -/
def ofJson? (text : String) : Option Value :=
  let cs := text.toList
  match readValue? (cs.length + 1) cs with
  | some (v, rest) => if (skipBlanks rest).isEmpty then some v else none
  | none => none

end CardLedger.Value
