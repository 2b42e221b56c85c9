import CardLedger.Error

/-!
# Amounts

Amounts of money and limits that a caller gives have to be finite and positive.
-/

namespace CardLedger

/-- Whether a number may stand for an amount. -/
def isAmount (x : Float) : Bool :=
  x.isFinite && !decide (x ≤ 0)

/-- Check an amount. -/
def checkAmount (x : Float) : Except Error Unit :=
  if isAmount x then .ok () else .error (.invalidAmount x)

/-- Check a limit that need not be given. -/
def checkLimit : Option Float → Except Error Unit
  | none => .ok ()
  | some x => checkAmount x

end CardLedger
