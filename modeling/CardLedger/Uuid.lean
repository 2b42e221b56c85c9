import CardLedger.Value.Json.Reader

/-!
# Identifiers

Identifiers of 128 bits. They are written as 32 lower-case hexadecimal digits with hyphens; they are
read in either case, with or without the hyphens, and with the hyphens also in braces or behind
`urn:uuid:`. In a value tree an identifier may also be a list of its bytes.
-/

namespace CardLedger

/-- An identifier of 128 bits. -/
structure Uuid where
  bits : BitVec 128
  deriving DecidableEq, Inhabited

namespace Uuid

/-- The identifier of a number, its lowest 128 bits. -/
def ofNat (n : Nat) : Uuid :=
  ⟨BitVec.ofNat 128 n⟩

/-- The 32 hexadecimal digits of an identifier. -/
def digits (id : Uuid) : List Char :=
  (List.range 32).map fun i => Nat.digitChar (id.bits.toNat / Nat.pow 16 (31 - i) % 16)

/-- Put the hyphens between the groups of 8, 4, 4, 4 and 12 digits. -/
def hyphenate (cs : List Char) : List Char :=
  cs.take 8 ++ '-' :: (cs.drop 8).take 4 ++ '-' :: (cs.drop 12).take 4 ++
    '-' :: (cs.drop 16).take 4 ++ '-' :: cs.drop 20

/-- The written form of an identifier. -/
def toText (id : Uuid) : String :=
  String.ofList (hyphenate id.digits)

instance : ToString Uuid := ⟨toText⟩

/-- Read 32 hexadecimal digits. -/
def ofDigits? (cs : List Char) : Option Uuid :=
  if cs.length = 32 then (Value.ofHexDigits? cs).map ofNat else none

/-- Read the hyphenated form. -/
def ofHyphenated? (cs : List Char) : Option Uuid :=
  let bare := cs.filter (· != '-')
  if hyphenate bare = cs then ofDigits? bare else none

/-- What may stand in front of the hyphenated form, in either case. -/
def marker : List Char := "urn:uuid:".toList

/-- Read an identifier in any of its written forms. -/
def ofText? (text : String) : Option Uuid :=
  let cs := text.toList
  if (cs.take 9).map Char.toLower = marker then ofHyphenated? (cs.drop 9)
  else if cs.head? = some '\x7b' ∧ cs.getLast? = some '\x7d' then
    ofHyphenated? (cs.drop 1).dropLast
  else if cs.length = 32 then ofDigits? cs
  else ofHyphenated? cs

/-- Read a byte. -/
def byte? (v : Value) : Option Nat := do
  let n ← v.int?
  if 0 ≤ n ∧ n ≤ 255 then some n.toNat else none

/-- Read sixteen bytes, the highest first; what follows them does not count. -/
def ofBytes? (items : List Value) : Option Uuid := do
  let bytes ← (items.take 16).mapM byte?
  if bytes.length = 16 then some (ofNat (bytes.foldl (fun n b => 256 * n + b) 0)) else none

/-- Read an identifier from a value tree. -/
def ofValue? : Value → Option Uuid
  | .text s => ofText? s
  | .list items => ofBytes? items
  | _ => none

end Uuid

end CardLedger
