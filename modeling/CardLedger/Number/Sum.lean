/-!
# Compensated sums

Addition of a list of binary64 numbers from left to right with the rounding errors of the steps
kept apart and added at the end.
-/

namespace CardLedger.Number

/-- A running total and the rounding error it has collected. -/
structure Running where
  total : Float
  lost : Float

/-- Add a number; what the smaller of the two operands loses goes to the error. -/
def Running.add (r : Running) (x : Float) : Running :=
  let total := r.total + x
  let lost := if r.total.abs > x.abs then (r.total - total) + x else (x - total) + r.total
  ⟨total, r.lost + lost⟩

/-- The total with the collected error, unless that has left the finite numbers. -/
def Running.result (r : Running) : Float :=
  if r.lost.isFinite then r.total + r.lost else r.total

/-- The compensated sum of a list. -/
def sum (xs : List Float) : Float :=
  (xs.foldl Running.add ⟨0, 0⟩).result

end CardLedger.Number
