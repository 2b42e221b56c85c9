import CardLedger.Calendar.Instant
import CardLedger.Number.Reading

/-!
# Timestamps

The RFC 3339 text of an instant. It has no fraction or the shortest exact one of three, six or nine
digits. The store keeps timestamps and compares them character by character; between the years 0
and 9999 that is the order of the instants.
-/

namespace CardLedger.Instant

/-- The fraction of a second with its point. -/
def fractionText (nanos : Nat) : String :=
  if nanos = 0 then ""
  else if nanos % 1000000 = 0 then "." ++ Number.padded 3 (nanos / 1000000)
  else if nanos % 1000 = 0 then "." ++ Number.padded 6 (nanos / 1000)
  else "." ++ Number.padded 9 nanos

/-- The timestamp of an instant without its zone. A leap second is written as second 60. -/
def zoneless (i : Instant) : String :=
  let second := i.secondOfDay.toNat
  i.date.toText ++ "T" ++ Number.padded 2 (second / 3600) ++ ":" ++
    Number.padded 2 (second / 60 % 60) ++ ":" ++
    Number.padded 2 (second % 60 + i.nanos / 1000000000) ++ fractionText (i.nanos % 1000000000)

/-- The timestamp of an instant in answers. -/
def toText (i : Instant) : String :=
  i.zoneless ++ "Z"

instance : ToString Instant := ⟨toText⟩

/-- The timestamp of an instant in the store. -/
def stored (i : Instant) : String :=
  i.zoneless ++ "+00:00"

/-- Whether one stored timestamp comes before another. -/
def storedBefore (a b : Instant) : Bool :=
  decide (a.stored < b.stored)

/-- Read a number of so many digits and the separator behind it. -/
def readPart? (width : Nat) (isEnd : Char → Bool) (cs : List Char) : Option (Nat × List Char) :=
  let digits := cs.take width
  if digits.length = width ∧ digits.all Char.isDigit then
    match cs.drop width with
    | c :: rest => if isEnd c then some (Number.ofDigits digits, rest) else none
    | [] => none
  else none

/-- Read two digits. -/
def readTwo? (cs : List Char) : Option (Nat × List Char) :=
  match cs with
  | a :: b :: rest => if a.isDigit && b.isDigit then some (Number.ofDigits [a, b], rest) else none
  | _ => none

/-- Read a fraction of a second as nanoseconds; digits beyond the ninth are dropped. -/
def readFraction? (cs : List Char) : Option (Nat × List Char) :=
  match cs with
  | '.' :: rest =>
      let digits := rest.takeWhile Char.isDigit
      if digits.isEmpty then none
      else
        let nine := (digits ++ List.replicate 9 '0').take 9
        some (Number.ofDigits nine, rest.dropWhile Char.isDigit)
  | cs => some (0, cs)

/-- Read a zone as its distance from UTC in minutes. -/
def readZone? (cs : List Char) : Option Int :=
  match cs with
  | ['Z'] => some 0
  | ['z'] => some 0
  | sign :: rest => do
      let (hour, rest) ← readPart? 2 (· == ':') rest
      let (minute, rest) ← readTwo? rest
      let minutes : Int := 60 * hour + minute
      if !rest.isEmpty || decide (59 < minute) || decide (23 < hour) then none
      else if sign = '+' then some minutes
      else if sign = '-' ∨ sign = '\u2212' then some (-minutes)
      else none
  | [] => none

/-- Read a timestamp in any zone. -/
def ofText? (text : String) : Option Instant := do
  let (year, rest) ← readPart? 4 (· == '-') text.toList
  let (month, rest) ← readPart? 2 (· == '-') rest
  let (day, rest) ← readPart? 2 (fun c => c == 'T' || c == 't' || c == ' ') rest
  let (hour, rest) ← readPart? 2 (· == ':') rest
  let (minute, rest) ← readPart? 2 (· == ':') rest
  let (second, rest) ← readTwo? rest
  let (nanos, rest) ← readFraction? rest
  let zone ← readZone? rest
  let date : Date := ⟨year, month, day⟩
  if !date.isValid || decide (23 < hour) || decide (59 < minute) || decide (60 < second) then none
  else
    let seconds := 86400 * date.dayNumber + 3600 * hour + 60 * (minute - zone) + min second 59
    ofParts? seconds (nanos + if second = 60 then 1000000000 else 0)

end CardLedger.Instant
