import CardLedger.Calendar.Instant
import CardLedger.Uuid

/-!
# Surroundings of an operation

What an operation takes from outside the store: the wall clock, fresh identifiers, random numbers,
how the store keeps value trees as texts, and what others do to the store in the meantime.
-/

namespace CardLedger

/-- What others do to the store while an operation runs. -/
structure Interference where
  /-- Right after a transaction record has been written, the balance of its card becomes this. -/
  balanceAfterRecord : Option Float := none
  /-- Updates of card rows reach no row. -/
  cardUpdatesLost : Bool := false
  /-- The store does not answer before the deadline. -/
  storeSilent : Bool := false

/-- The surroundings of one operation. -/
structure Ambient where
  /-- The wall clock. -/
  now : Instant
  /-- The identifiers drawn, in order. -/
  freshId : Nat → Uuid
  /-- The random numbers drawn, in order. -/
  draw : Nat → Nat
  /-- What a column of value trees gives back of a tree that is written to it, if it can be read. The
  tree is kept as a text; fractions may come back changed, and deep trees not at all. -/
  jsonColumn : Value → Option Value := some
  interference : Interference := {}

end CardLedger
