import CardLedger.Digest.Sha256
import CardLedger.Store.Ambient

/-!
# Surroundings from a seed

Identifiers and random numbers drawn from a secret seed: the digest of the seed, of the use, and of
the position. Identifiers carry the marks of version 4.
-/

namespace CardLedger

/-- The number that a seed gives at a position. -/
def seededNumber (seed : String) (position : Nat) : Nat :=
  (Value.ofHexDigits? (Digest.ofText (seed ++ ":" ++ toString position)).toList).getD 0

/-- The identifier of a random number: version 4, and the variant that goes with it. -/
def Uuid.ofRandom (n : Nat) : Uuid :=
  let high := n / Nat.pow 2 80 % Nat.pow 2 48
  let middle := n / Nat.pow 2 64 % Nat.pow 2 12
  let low := n % Nat.pow 2 62
  .ofNat (high * Nat.pow 2 80 + 4 * Nat.pow 2 76 + middle * Nat.pow 2 64 + 2 * Nat.pow 2 62 + low)

/-- The surroundings of an operation at a time, all random choices following from a seed. -/
def Ambient.seeded (now : Instant) (seed : String) : Ambient :=
  { now
    freshId := fun i => Uuid.ofRandom (seededNumber (seed ++ "/identifier") i)
    draw := fun i => seededNumber (seed ++ "/number") i }

end CardLedger
