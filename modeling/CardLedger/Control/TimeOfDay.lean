import CardLedger.Control.Fault
import CardLedger.Number.Reading
import CardLedger.Text.Normal

/-!
# Times of day

Reading a time of day: one or two ASCII digits for the hour, a colon, one or two for the minute.
-/

namespace CardLedger.TimeOfDay

/-- The number written by one or two ASCII digits. -/
def part? (cs : List Char) : Option Nat :=
  if (cs.length = 1 ∨ cs.length = 2) ∧ cs.all Char.isDigit then some (Number.ofDigits cs) else none

/-- Hour and minute of a text of the right shape, not yet known to be on the clock. -/
def parts? (text : String) : Option (Nat × Nat) := do
  let (front, back) ← Text.splitAtFirst? ':' text.toList
  let hour ← part? front
  let minute ← part? back
  return (hour, minute)

/-- The minutes since midnight of a time of day. -/
def parse (text : String) : Except TimeFault Nat :=
  match parts? text with
  | none => .error .shape
  | some (hour, minute) =>
      if 23 < hour then .error .hour
      else if 59 < minute then .error .minute
      else .ok (60 * hour + minute)

/-- The minutes since midnight, a fault being told together with the text. -/
def minutes (text : String) : Except ControlFault Nat :=
  match parse text with
  | .ok n => .ok n
  | .error fault => .error (.wrongTime text fault)

end CardLedger.TimeOfDay
