/-!
# Shortest decimals

The fewest decimal digits that read back as a given binary64 number. The bits of a positive finite
number give an integer times a power of two, and with it the interval of reals that round to the
number. For one digit, two digits and so on, the two neighbours of the number on that decimal grid
are tested against the interval in exact arithmetic; the first grid with a hit wins, and of two
hits the nearer one. The caller says which of two equally near hits counts.
-/

namespace CardLedger.Number

/-- A decimal `digits · 10 ^ exponent`. -/
structure Decimal where
  digits : Nat
  exponent : Int
  deriving DecidableEq

/-- Which of two equally near decimals is taken. -/
inductive Tie where
  /-- The one whose last digit is even. -/
  | even
  /-- The one further from zero. -/
  | away
  deriving DecidableEq

/-- Whether a tie goes to the lower decimal, given its digits. -/
def Tie.takesLower (tie : Tie) (digits : Nat) : Bool :=
  decide (tie = .even) && digits % 2 == 0

/-- A positive binary number `mantissa · 2 ^ exponent` with the shape of its neighbourhood. -/
structure Binary where
  mantissa : Nat
  exponent : Int
  /-- The next number below is only half as far away as the next one above. -/
  narrowBelow : Bool

/-- The fields of a finite binary64 number, its sign dropped. -/
def Binary.ofBits (bits : Nat) : Binary :=
  let biased : Nat := bits / Nat.pow 2 52 % Nat.pow 2 11
  let fraction : Nat := bits % Nat.pow 2 52
  if biased = 0 then ⟨fraction, -1074, false⟩
  else ⟨fraction + Nat.pow 2 52, (biased : Int) - 1075, fraction == 0 && decide (1 < biased)⟩

/-- A fraction of natural numbers. -/
structure Fraction where
  num : Nat
  den : Nat

/-- The fraction `n · b ^ e`. -/
def Fraction.scaled (n b : Nat) (e : Int) : Fraction :=
  if 0 ≤ e then ⟨n * Nat.pow b e.toNat, 1⟩ else ⟨n, Nat.pow b (-e).toNat⟩

/-- Comparison by cross multiplication. -/
def Fraction.lt (x y : Fraction) : Bool :=
  decide (x.num * y.den < y.num * x.den)

/-- The distance of two fractions. -/
def Fraction.distance (x y : Fraction) : Fraction :=
  ⟨x.num * y.den - y.num * x.den + (y.num * x.den - x.num * y.den), x.den * y.den⟩

/-- The reals that round to a binary number; the ends belong to it when the mantissa is even. -/
structure RoundingInterval where
  low : Fraction
  high : Fraction
  closed : Bool

/-- The interval of a binary number, its ends halfway to the neighbours. -/
def Binary.interval (x : Binary) : RoundingInterval :=
  { low := .scaled (4 * x.mantissa - if x.narrowBelow then 1 else 2) 2 (x.exponent - 2)
    high := .scaled (4 * x.mantissa + 2) 2 (x.exponent - 2)
    closed := x.mantissa % 2 == 0 }

/-- Whether a fraction lies in the interval. -/
def RoundingInterval.holds (i : RoundingInterval) (x : Fraction) : Bool :=
  if i.closed then !x.lt i.low && !i.high.lt x else i.low.lt x && x.lt i.high

/-- The exponent of the leading decimal digit of a positive fraction. -/
def Fraction.magnitude (x : Fraction) : Int :=
  let bits : Int := (Nat.log2 x.num : Int) - (Nat.log2 x.den : Int)
  let guess := (bits - 1) * 30103 / 100000 - 1
  match [guess, guess + 1, guess + 2].find? fun p => x.lt (.scaled 1 10 (p + 1)) with
  | some p => p
  | none => guess + 3

/-- The decimal of at most `count` digits nearest to the number among those in its interval. -/
def Binary.onGrid? (x : Binary) (tie : Tie) (magnitude : Int) (count : Nat) : Option Decimal :=
  let exponent := magnitude - count + 1
  let value := Fraction.scaled x.mantissa 2 x.exponent
  let unit := Fraction.scaled 1 10 exponent
  let below := value.num * unit.den / (value.den * unit.num)
  let grid := fun digits => Fraction.scaled digits 10 exponent
  let belowHits := decide (0 < below) && x.interval.holds (grid below)
  let aboveHits := x.interval.holds (grid (below + 1))
  let toBelow := (grid below).distance value
  let toAbove := (grid (below + 1)).distance value
  let belowWins := toBelow.lt toAbove || (!toAbove.lt toBelow && tie.takesLower below)
  if belowHits && (!aboveHits || belowWins) then some ⟨below, exponent⟩
  else if aboveHits then some ⟨below + 1, exponent⟩
  else none

/-- Move trailing zeros into the exponent, at most `fuel` of them. -/
def Decimal.stripZeros : Nat → Decimal → Decimal
  | 0, d => d
  | fuel + 1, d =>
      if d.digits ≠ 0 ∧ d.digits % 10 = 0 then stripZeros fuel ⟨d.digits / 10, d.exponent + 1⟩ else d

/-- The shortest decimal that reads back as the number with these bits, its sign dropped. -/
def shortestOfBits (tie : Tie) (bits : Nat) : Decimal :=
  let x := Binary.ofBits bits
  if x.mantissa = 0 then ⟨0, 0⟩
  else
    let magnitude := (Fraction.scaled x.mantissa 2 x.exponent).magnitude
    match (List.range 17).findSome? fun n => x.onGrid? tie magnitude (n + 1) with
    | some d => d.stripZeros 17
    | none => ⟨x.mantissa, 0⟩

end CardLedger.Number
