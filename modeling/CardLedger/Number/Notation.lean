import CardLedger.Number.Shortest

/-!
# Written forms of amounts

Two ways to write the shortest decimal of a binary64 number. Messages write it positionally,
without an exponent and without a point when it is whole. Value trees write a number that is seen
to be fractional: a whole one ends in a zero place, and far from one the exponent form is used.
-/

namespace CardLedger.Number

/-- So many zeros. -/
def zeros (count : Nat) : String :=
  String.ofList (List.replicate count '0')

/-- A natural number in at least `width` digits. -/
def padded (width n : Nat) : String :=
  let digits := Nat.toDigits 10 n
  String.ofList (List.replicate (width - digits.length) '0' ++ digits)

/-- Write a decimal without an exponent. -/
def Decimal.positional (d : Decimal) : String :=
  let digits := Nat.toDigits 10 d.digits
  if 0 ≤ d.exponent then String.ofList digits ++ zeros d.exponent.toNat
  else
    let places := (-d.exponent).toNat
    if places < digits.length then
      String.ofList (digits.take (digits.length - places)) ++ "." ++
        String.ofList (digits.drop (digits.length - places))
    else "0." ++ zeros (places - digits.length) ++ String.ofList digits

/-- Write a decimal as one digit, the rest behind a point, and an exponent. -/
def Decimal.scientific (d : Decimal) : String :=
  let digits := Nat.toDigits 10 d.digits
  let exponent : Int := d.exponent + digits.length - 1
  let mantissa :=
    match digits with
    | first :: second :: rest => String.ofList (first :: '.' :: second :: rest)
    | short => String.ofList short
  mantissa ++ "e" ++ toString exponent

/-- The sign of a number, set for a negative zero too. -/
def isNegative (x : Float) : Bool :=
  Nat.pow 2 63 ≤ x.toBits.toNat

/-- The shortest decimal of a finite number, its sign dropped. -/
def shortest (tie : Tie) (x : Float) : Decimal :=
  shortestOfBits tie (x.toBits.toNat % Nat.pow 2 63)

/-- The form of an amount in a message; a tie goes away from zero. -/
def message (x : Float) : String :=
  if x.isNaN then "NaN"
  else
    (if isNegative x then "-" else "") ++ if x.isInf then "inf" else (shortest .away x).positional

/-- The form of a finite number in a value tree; a tie goes to the even digit. -/
def exact (x : Float) : String :=
  let d := shortest .even x
  let whole : Int := d.exponent + (Nat.toDigits 10 d.digits).length
  let text :=
    if 0 ≤ d.exponent ∧ whole ≤ 16 then d.positional ++ ".0"
    else if -5 < whole ∧ whole ≤ 16 then d.positional
    else d.scientific
  (if isNegative x then "-" else "") ++ text

end CardLedger.Number
