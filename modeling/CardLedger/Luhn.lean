import CardLedger.Number.Reading

/-!
# Check digits

The Luhn check digit: from the right, every other digit is doubled, beginning with the first, and the
digits of the results are added up.
-/

namespace CardLedger.Luhn

/-- Twice a digit, its two digits added up. -/
def doubled (d : Nat) : Nat :=
  if 9 < 2 * d then 2 * d - 9 else 2 * d

/-- The sum over digits, the rightmost first; `double` says whether the next one is doubled. -/
def sumFrom : Bool → List Nat → Nat
  | _, [] => 0
  | double, d :: rest => (if double then doubled d else d) + sumFrom (!double) rest

/-- The check digit that belongs behind a list of characters; those that are no digits are skipped. -/
def checkDigitOf (cs : List Char) : Nat :=
  (10 - sumFrom true (cs.reverse.filterMap Number.digit?) % 10) % 10

/-- The check digit that belongs behind a text. -/
def checkDigit (text : String) : Nat :=
  checkDigitOf text.toList

/-- Whether a list of characters is a number that ends in its check digit. -/
def isValidList (cs : List Char) : Bool :=
  decide (2 ≤ cs.length) && cs.all Char.isDigit &&
    match cs.reverse with
    | last :: body => Number.digit? last == some (checkDigitOf body.reverse)
    | [] => false

/-- Whether a text is a number that ends in its check digit. -/
def isValid (text : String) : Bool :=
  isValidList text.toList

/-- A card number of 16 digits: a four, fourteen drawn digits, and the check digit. -/
def cardNumber (draw : Nat → Nat) : String :=
  let body := '4' :: (List.range 14).map fun i => Nat.digitChar (draw i % 10)
  String.ofList (body ++ [Nat.digitChar (checkDigitOf body)])

end CardLedger.Luhn
