import Mathlib.Data.Nat.Basic
import CardLedger.Luhn

/-!
# Card numbers

A number that passes the check has a Luhn sum divisible by ten, and every card number that is made up
passes it, whatever digits are drawn.
-/

namespace CardLedger.Luhn

theorem checkDigitOf_lt (cs : List Char) : checkDigitOf cs < 10 :=
  Nat.mod_lt _ (by decide)

theorem digit?_digitChar {d : Nat} (hDigit : d < 10) : Number.digit? (Nat.digitChar d) = some d := by
  have hAll : ∀ d < 10, Number.digit? (Nat.digitChar d) = some d := by decide
  exact hAll d hDigit

/-- A text of at least one digit with its check digit behind it is valid. -/
theorem isValidList_append {body : List Char} (hSome : body ≠ []) (hDigits : body.all Char.isDigit = true) :
    isValidList (body ++ [Nat.digitChar (checkDigitOf body)]) = true := by
  have hLength : 2 ≤ (body ++ [Nat.digitChar (checkDigitOf body)]).length := by
    have hPos := List.length_pos_iff.mpr hSome
    rw [List.length_append, List.length_singleton]
    omega
  unfold isValidList
  simp only [List.reverse_append, List.reverse_cons, List.reverse_nil, List.nil_append,
    List.singleton_append, List.reverse_reverse]
  rw [decide_eq_true hLength, List.all_append, hDigits, digit?_digitChar (checkDigitOf_lt body)]
  simp [Nat.isDigit_digitChar, checkDigitOf_lt body]

/-- The Luhn sum of a valid number, the check digit included, is divisible by ten. -/
theorem sum_of_isValidList {cs : List Char} (hValid : isValidList cs = true) :
    sumFrom false (cs.reverse.filterMap Number.digit?) % 10 = 0 := by
  unfold isValidList at hValid
  cases hReverse : cs.reverse with
  | nil => rfl
  | cons last body =>
      rw [hReverse] at hValid
      simp only [Bool.and_eq_true, beq_iff_eq] at hValid
      rw [List.filterMap_cons_some hValid.2]
      change (checkDigitOf body.reverse + sumFrom true (body.filterMap Number.digit?)) % 10 = 0
      unfold checkDigitOf
      rw [List.reverse_reverse]
      omega

/-- What a card number is: sixteen digits, a four in front, and a Luhn sum divisible by ten. -/
structure IsCardNumber (number : String) : Prop where
  length : number.toList.length = 16
  digits : number.toList.all Char.isDigit = true
  first : number.toList.head? = some '4'
  checked : isValid number = true
  sum : sumFrom false (number.toList.reverse.filterMap Number.digit?) % 10 = 0

/-- The fifteen characters in front of the check digit. -/
def drawnBody (draw : Nat → Nat) : List Char :=
  '4' :: (List.range 14).map fun i => Nat.digitChar (draw i % 10)

theorem all_isDigit_drawnBody (draw : Nat → Nat) : (drawnBody draw).all Char.isDigit = true := by
  unfold drawnBody
  rw [List.all_cons, List.all_map, Bool.and_eq_true]
  refine ⟨by decide, List.all_eq_true.mpr fun i _ => ?_⟩
  exact Nat.isDigit_digitChar.trans (decide_eq_true (Nat.mod_lt _ (by decide)))

theorem toList_cardNumber (draw : Nat → Nat) :
    (cardNumber draw).toList = drawnBody draw ++ [Nat.digitChar (checkDigitOf (drawnBody draw))] :=
  String.toList_ofList

theorem isCardNumber_cardNumber (draw : Nat → Nat) : IsCardNumber (cardNumber draw) := by
  have hValid := isValidList_append (List.cons_ne_nil _ _) (all_isDigit_drawnBody draw)
  constructor
  · rw [toList_cardNumber]
    simp [drawnBody]
  · rw [toList_cardNumber, List.all_append, all_isDigit_drawnBody]
    simp [Nat.isDigit_digitChar, checkDigitOf_lt]
  · rw [toList_cardNumber]
    rfl
  · unfold isValid
    rwa [toList_cardNumber]
  · rw [toList_cardNumber]
    exact sum_of_isValidList hValid

end CardLedger.Luhn
