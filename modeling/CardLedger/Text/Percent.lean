import CardLedger.Text.Normal
import CardLedger.Value.Json.Reader

/-!
# Percent signs for bytes

Texts in which a byte may stand as a percent sign and two hexadecimal digits. A percent sign that
is not followed by two digits stands for itself.
-/

namespace CardLedger.Text

/-- The bytes of a text with the written ones restored. -/
def percentBytes : List Char → List UInt8
  | '%' :: a :: b :: rest =>
      match Value.ofHexDigits? [a, b] with
      | some n => UInt8.ofNat n :: percentBytes rest
      | none => '%'.toUInt8 :: percentBytes (a :: b :: rest)
  | c :: rest => (String.singleton c).toUTF8.toList ++ percentBytes rest
  | [] => []

/-- The text of bytes, if they are the UTF-8 form of one. -/
def ofBytes? (bytes : List UInt8) : Option String :=
  String.fromUTF8? (ByteArray.mk bytes.toArray)

/-- The text of bytes; bytes that are no text stand for the characters of their numbers. -/
def ofBytes (bytes : List UInt8) : String :=
  (ofBytes? bytes).getD (String.ofList (bytes.map fun b => Char.ofNat b.toNat))

/-- A text with the written bytes restored. -/
def ofPercent? (cs : List Char) : Option String :=
  ofBytes? (percentBytes cs)

/-- A text of a form, in which a plus sign stands for a blank. -/
def ofForm? (cs : List Char) : Option String :=
  ofPercent? (cs.map fun c => if c = '+' then ' ' else c)

/-- The named texts of a form. -/
def formFields? (cs : List Char) : Option (List (String × String)) :=
  ((pieces '&' cs).filter fun piece => !piece.isEmpty).mapM fun piece => do
    let (name, text) := (splitAtFirst? '=' piece).getD (piece, [])
    return (← ofForm? name, ← ofForm? text)

end CardLedger.Text
