import CardLedger.Calendar.Timestamp
import CardLedger.Value.Json.Reader

/-!
# Scalars in TOML

Numbers, booleans, dates and times of day. Whole numbers have 64 bits, and a decimal may be too low
for a finite number but not too high. A date or a time of day stands as a record of one field.
-/

namespace CardLedger.Value.Toml

/-! ## Words -/

/-- Remove the underscores of a number; each has to stand between two digits. -/
def dropUnderscores? (isDigit : Char → Bool) : List Char → Option (List Char)
  | [] => some []
  | a :: '_' :: b :: rest =>
      if isDigit a && isDigit b then (dropUnderscores? isDigit (b :: rest)).map (a :: ·) else none
  | c :: rest => if c = '_' then none else (dropUnderscores? isDigit rest).map (c :: ·)

/-- Digits in a base behind their mark; a number above 63 bits has no value. -/
def ofBase? (base : Nat) (cs : List Char) : Option Value := do
  let inBase := fun c => (hexValue? c).any fun d => decide (d < base)
  let digits ← dropUnderscores? inBase cs
  if digits.isEmpty || !digits.all inBase then none
  else
    let n := digits.foldl (fun n c => base * n + (hexValue? c).getD 0) 0
    if n < Nat.pow 2 63 then some (.int n) else none

/-- A decimal number, whole or fractional. -/
def ofDecimal? (cs : List Char) : Option Value := do
  let plain ← dropUnderscores? Char.isDigit cs
  let (negative, digits) := Number.readSign plain
  let (literal, rest) ← Number.readLiteral? negative digits
  match literal.whole, rest with
  | '0' :: _ :: _, _ => none
  | _, [] =>
      if literal.isWhole then
        let size : Int := Number.ofDigits literal.whole
        let n : Int := if negative then -size else size
        if -Int.pow 2 63 ≤ n ∧ n < Int.pow 2 63 then some (.int n) else none
      else
        let x := literal.toFloat
        if x.isInf && !negative then none else some (.float x)
  | _, _ => none

/-- The value of an unquoted word. -/
def ofWord? (cs : List Char) : Option Value :=
  let (negative, unsigned) := Number.readSign cs
  if cs = "true".toList then some (.bool true)
  else if cs = "false".toList then some (.bool false)
  else if unsigned = "inf".toList then some (.float (if negative then -(1.0 / 0.0) else 1.0 / 0.0))
  else if unsigned = "nan".toList then some (.float (0.0 / 0.0))
  else
    match cs with
    | '0' :: 'x' :: digits => ofBase? 16 digits
    | '0' :: 'o' :: digits => ofBase? 8 digits
    | '0' :: 'b' :: digits => ofBase? 2 digits
    | _ => ofDecimal? cs

/-- Whether a character may stand in an unquoted word. -/
def isWordChar (c : Char) : Bool :=
  c.isAlphanum || c = '_' || c = '-' || c = '+' || c = '.'

/-! ## Dates and times of day -/

/-- Read a date. -/
def readDate? (cs : List Char) : Option (String × List Char) := do
  let (year, rest) ← Instant.readPart? 4 (· == '-') cs
  let (month, rest) ← Instant.readPart? 2 (· == '-') rest
  let (day, rest) ← Instant.readTwo? rest
  let date : Date := ⟨year, month, day⟩
  if date.isValid then some (date.toText, rest) else none

/-- The fraction of a second without needless zeros. -/
def fractionText (nanos : Nat) : String :=
  if nanos = 0 then ""
  else
    let digits := (Number.padded 9 nanos).toList.reverse.dropWhile (· = '0')
    "." ++ String.ofList digits.reverse

/-- Read a time of day. -/
def readTime? (cs : List Char) : Option (String × List Char) := do
  let (hour, rest) ← Instant.readPart? 2 (· == ':') cs
  let (minute, rest) ← Instant.readPart? 2 (· == ':') rest
  let (second, rest) ← Instant.readTwo? rest
  let (nanos, rest) ← Instant.readFraction? rest
  if hour ≤ 23 ∧ minute ≤ 59 ∧ second ≤ 60 then
    some (Number.padded 2 hour ++ ":" ++ Number.padded 2 minute ++ ":" ++ Number.padded 2 second ++
      fractionText nanos, rest)
  else none

/-- The written form of a distance from UTC in minutes. -/
def zoneText (minutes : Int) : String :=
  let size := minutes.natAbs
  (if minutes < 0 then "-" else "+") ++ Number.padded 2 (size / 60) ++ ":" ++
    Number.padded 2 (size % 60)

/-- Read a zone; there may be none. -/
def readZone (cs : List Char) : String × List Char :=
  match cs with
  | [] => ("", [])
  | c :: rest =>
      if c = 'Z' ∨ c = 'z' then ("Z", rest)
      else if c = '+' ∨ c = '-' then
        match Instant.readZone? (cs.take 6) with
        | some minutes => (zoneText minutes, cs.drop 6)
        | none => ("", cs)
      else ("", cs)

/-- Read a date with a time of day behind it or a date alone. -/
def readMoment? (cs : List Char) : Option (String × List Char) := do
  let (date, rest) ← readDate? cs
  match rest with
  | c :: more =>
      if c = 'T' ∨ c = 't' ∨ c = ' ' then
        match readTime? more with
        | some (time, rest) =>
            let (zone, rest) := readZone rest
            some (date ++ "T" ++ time ++ zone, rest)
        | none => some (date, rest)
      else some (date, rest)
  | [] => some (date, [])

/-- The name of the field that holds a date or a time of day. -/
def momentField : String := "$__toml_private_datetime"

/-- Read a scalar that is no string. -/
def readScalar? (cs : List Char) : Option (Value × List Char) :=
  match readMoment? cs <|> readTime? cs with
  | some (moment, rest) => some (.record [(momentField, .text moment)], rest)
  | none =>
      let word := cs.takeWhile isWordChar
      (ofWord? word).map fun v => (v, cs.drop word.length)

end CardLedger.Value.Toml
