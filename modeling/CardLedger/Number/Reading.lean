/-!
# Reading decimals

The grammar of decimal texts and two ways to take one as a binary64 number. The nearest number is
the exact way; a number out of range then reads as an infinity or as zero. The quick way cuts the
digits off where they no longer fit in 64 bits and rounds them, the power of ten and the result; it
may end up beside the nearest number, and it refuses what is out of range.
-/

namespace CardLedger.Number

/-- The value of a decimal digit. -/
def digit? (c : Char) : Option Nat :=
  if c.isDigit then some (c.toNat - '0'.toNat) else none

/-- The number written by a list of digits. -/
def ofDigits (cs : List Char) : Nat :=
  cs.foldl (fun n c => 10 * n + (c.toNat - '0'.toNat)) 0

/-- The binary64 number nearest to `± digits · 10 ^ exponent`. -/
def nearest (negative : Bool) (digits : Nat) (exponent : Int) : Float :=
  let size : Int := (Nat.toDigits 10 digits).length + exponent
  let magnitude : Float :=
    if digits = 0 ∨ size < -400 then 0
    else if 400 < size then Float.ofScientific 1 false 400
    else if 0 ≤ exponent then Float.ofScientific digits false exponent.toNat
    else Float.ofScientific digits true (-exponent).toNat
  if negative then -magnitude else magnitude

/-- A decimal text cut into its parts. -/
structure Literal where
  negative : Bool
  whole : List Char
  fraction : List Char
  exponent : Int
  /-- Whether it is written without a point and without an exponent. -/
  isWhole : Bool

/-- The number that a literal stands for. -/
def Literal.toFloat (l : Literal) : Float :=
  nearest l.negative (ofDigits (l.whole ++ l.fraction)) (l.exponent - l.fraction.length)

/-- The power of ten with a natural exponent. -/
def powerOfTen (exponent : Nat) : Float :=
  Float.ofScientific 1 false exponent

/-- A significand times a power of ten, each rounded, and the result again. -/
def scaled? (significand : Nat) (exponent : Int) : Option Float :=
  let x : Float := Float.ofScientific significand false 0
  if significand = 0 then some 0
  else if 0 ≤ exponent then
    if 308 < exponent then none
    else
      let product := x * powerOfTen exponent.toNat
      if product.isInf then none else some product
  else if -308 ≤ exponent then some (x / powerOfTen (-exponent).toNat)
  else if -616 ≤ exponent then some (x / powerOfTen 308 / powerOfTen (-exponent - 308).toNat)
  else some 0

/-- Append digits to a number as long as it stays below 2 ^ 64; also the count of those left over. -/
def gather (n : Nat) : List Char → Nat × Nat
  | [] => (n, 0)
  | c :: rest =>
      let next := 10 * n + (c.toNat - '0'.toNat)
      if next < Nat.pow 2 64 then gather next rest else (n, rest.length + 1)

/-- The number that a literal stands for, taken the quick way. -/
def Literal.quick? (l : Literal) : Option Float :=
  let (whole, skipped) := gather 0 l.whole
  let (significand, ignored) := gather whole l.fraction
  let exponent : Int := l.exponent + skipped - (l.fraction.length - ignored : Nat)
  (scaled? significand exponent).map fun x => if l.negative then -x else x

/-- Read an optional sign; true for a minus. -/
def readSign : List Char → Bool × List Char
  | '-' :: rest => (true, rest)
  | '+' :: rest => (false, rest)
  | cs => (false, cs)

/-- Read an exponent behind its letter; nothing if no digit follows. -/
def readExponent? (cs : List Char) : Option (Int × List Char) :=
  let (negative, rest) := readSign cs
  let digits := rest.takeWhile Char.isDigit
  if digits.isEmpty then none
  else
    let size : Int := ofDigits digits
    some (if negative then -size else size, rest.dropWhile Char.isDigit)

/-- Read the digits of an unsigned decimal literal and return what follows it. -/
def readLiteral? (negative : Bool) (cs : List Char) : Option (Literal × List Char) :=
  let whole := cs.takeWhile Char.isDigit
  if whole.isEmpty then none
  else do
    let afterWhole := cs.dropWhile Char.isDigit
    let (fraction, afterFraction) ←
      match afterWhole with
      | '.' :: rest =>
          let digits := rest.takeWhile Char.isDigit
          if digits.isEmpty then none else some (digits, rest.dropWhile Char.isDigit)
      | rest => some ([], rest)
    let (exponent, hasExponent, rest) ←
      match afterFraction with
      | c :: rest =>
          if c = 'e' ∨ c = 'E' then
            (readExponent? rest).map fun found => (found.1, true, found.2)
          else some (0, false, c :: rest)
      | [] => some (0, false, [])
    some (⟨negative, whole, fraction, exponent, fraction.isEmpty && !hasExponent⟩, rest)

/-- Digits, a zero if there are none. -/
def orZero (digits : List Char) : List Char :=
  if digits.isEmpty then ['0'] else digits

/-- Put a zero where a digit is missing beside a point; one side of the point has to have digits. -/
def fillPoint (cs : List Char) : List Char :=
  let whole := cs.takeWhile Char.isDigit
  match cs.drop whole.length with
  | '.' :: rest =>
      let fraction := rest.takeWhile Char.isDigit
      if whole.isEmpty && fraction.isEmpty then cs
      else orZero whole ++ '.' :: orZero fraction ++ rest.drop fraction.length
  | _ => cs

/-- Read a whole text as a number: a signed decimal, or a name of one of the other values in upper or
lower case. -/
def ofText? (text : String) : Option Float :=
  let (negative, rest) := readSign text.toList
  let name := String.ofList (rest.map Char.toLower)
  if name = "inf" ∨ name = "infinity" then some (if negative then -(1.0 / 0.0) else 1.0 / 0.0)
  else if name = "nan" then some (0.0 / 0.0)
  else
    match readLiteral? negative (fillPoint rest) with
    | some (literal, []) => some literal.toFloat
    | _ => none

end CardLedger.Number
