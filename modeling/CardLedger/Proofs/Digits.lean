import Mathlib.Data.String.Basic
import Mathlib.Tactic
import CardLedger.Number.Notation

/-!
# Numbers in fixed columns

Numbers padded to one width are ordered as their digits are, character by character. Where such a
column stands in front of a longer text it decides the order of the texts, unless the numbers agree.
-/

namespace CardLedger.Number

theorem exists_digitChar {c : Char} (hDigit : c.isDigit = true) : ∃ d < 10, c = Nat.digitChar d := by
  obtain ⟨hZero, hNine⟩ := Char.isDigit_iff_toNat.mp hDigit
  have hLow : 48 ≤ c.toNat := hZero
  have hHigh : c.toNat ≤ 57 := hNine
  refine ⟨c.toNat - 48, by omega, ?_⟩
  rw [← Char.toNat_inj, Nat.toNat_digitChar_of_lt_ten (by omega)]
  omega

/-- The last digits of a number, so many of them. -/
def fixedDigits : Nat → Nat → List Char
  | 0, _ => []
  | width + 1, n => fixedDigits width (n / 10) ++ [Nat.digitChar (n % 10)]

theorem fixedDigits_zero (width : Nat) : fixedDigits width 0 = List.replicate width '0' := by
  induction width with
  | zero => rfl
  | succ width ih =>
      rw [fixedDigits, ih, List.replicate_succ']
      rfl

@[simp]
theorem length_fixedDigits (width n : Nat) : (fixedDigits width n).length = width := by
  induction width generalizing n with
  | zero => rfl
  | succ width ih => simp [fixedDigits, ih]

/-- A number that fits is written in exactly so many digits. -/
theorem toList_padded {width n : Nat} (hFits : n < 10 ^ (width + 1)) :
    (padded (width + 1) n).toList = fixedDigits (width + 1) n := by
  unfold padded
  rw [String.toList_ofList]
  induction width generalizing n with
  | zero =>
      have hDigit : n < 10 := hFits
      rw [Nat.toDigits_of_lt_base hDigit]
      simp [fixedDigits, Nat.mod_eq_of_lt hDigit]
  | succ width ih =>
      by_cases hDigit : n < 10
      · rw [Nat.toDigits_of_lt_base hDigit, fixedDigits, Nat.mod_eq_of_lt hDigit,
          Nat.div_eq_of_lt hDigit, fixedDigits_zero]
        rfl
      · have hRest : n / 10 < 10 ^ (width + 1) := by
          rw [Nat.pow_succ] at hFits
          omega
        have hSplit := Nat.toDigits_append_toDigits (b := 10) (n := n / 10) (d := n % 10)
          (by decide) (by omega) (by omega)
        rw [Nat.div_add_mod, Nat.toDigits_of_lt_base (Nat.mod_lt n (by decide))] at hSplit
        rw [fixedDigits, ← ih hRest, ← hSplit]
        simp

theorem lt_length_toDigits {width n : Nat} (hWide : 10 ^ width ≤ n) :
    width < (Nat.toDigits 10 n).length := by
  induction width generalizing n with
  | zero =>
      rw [List.length_pos_iff]
      by_cases hDigit : n < 10
      · simp [Nat.toDigits_of_lt_base hDigit]
      · rw [Nat.toDigits_of_base_le (by decide) (by omega)]
        simp
  | succ width ih =>
      rw [Nat.pow_succ] at hWide
      have hPositive : 0 < 10 ^ width := Nat.pow_pos (by decide)
      have hRest := ih (n := n / 10) (by omega)
      rw [Nat.toDigits_of_base_le (by decide) (by omega)]
      simpa using hRest

/-- A number that has more digits than its column gets the column it needs. -/
theorem padded_of_wide {width n : Nat} (hWide : 10 ^ width ≤ n) : padded width n = padded (width + 1) n := by
  have hLength := lt_length_toDigits hWide
  have hNarrow : width - (Nat.toDigits 10 n).length = 0 := by omega
  have hNext : width + 1 - (Nat.toDigits 10 n).length = 0 := by omega
  unfold padded
  dsimp only
  rw [hNarrow, hNext]

theorem digitChar_lt_digitChar {a b : Nat} (hLess : a < b) (hDigit : b < 10) :
    Nat.digitChar a < Nat.digitChar b := by
  interval_cases b <;> interval_cases a <;> decide

theorem cons_lt_cons_of_lt {x y : List Char} (c : Char) (hLess : x < y) : c :: x < c :: y :=
  List.cons_lt_cons_iff.mpr (.inr ⟨rfl, hLess⟩)

/-- Texts of one length decide the order of what begins with them. -/
theorem append_lt_append {k l x y : List Char} (hLength : k.length = l.length) (hLess : k < l) :
    k ++ x < l ++ y := by
  induction k generalizing l with
  | nil =>
      rw [List.length_nil, eq_comm, List.length_eq_zero_iff] at hLength
      rw [hLength] at hLess
      exact absurd hLess (lt_irrefl _)
  | cons a k ih =>
      cases l with
      | nil => cases hLength
      | cons b l =>
          rw [List.cons_lt_cons_iff] at hLess
          rw [List.cons_append, List.cons_append, List.cons_lt_cons_iff]
          rcases hLess with hHead | ⟨hSame, hTail⟩
          · exact .inl hHead
          · exact .inr ⟨hSame, ih (by simpa using hLength) hTail⟩

/-- Numbers in the same number of digits are ordered as their digits are. -/
theorem fixedDigits_lt {width a b : Nat} (hLess : a < b) (hFits : b < 10 ^ width) :
    fixedDigits width a < fixedDigits width b := by
  induction width generalizing a b with
  | zero =>
      rw [Nat.pow_zero] at hFits
      omega
  | succ width ih =>
      rw [fixedDigits, fixedDigits]
      rw [Nat.pow_succ] at hFits
      by_cases hRest : a / 10 < b / 10
      · exact append_lt_append (by simp) (ih hRest (by omega))
      · have hSame : a / 10 = b / 10 := by omega
        rw [hSame]
        refine List.append_left_lt (List.cons_lt_cons_iff.mpr (.inl ?_))
        exact digitChar_lt_digitChar (by omega) (by omega)

/-- A field of digits in a text decides, unless what comes behind it has to. -/
theorem fixedDigits_append_lt {width a b : Nat} {x y : List Char} (hFits : b < 10 ^ width)
    (hLess : a < b ∨ a = b ∧ x < y) : fixedDigits width a ++ x < fixedDigits width b ++ y := by
  rcases hLess with hLess | ⟨rfl, hTail⟩
  · exact append_lt_append (by simp) (fixedDigits_lt hLess hFits)
  · exact List.append_left_lt hTail

/-- What begins with a sign comes before what begins with a digit. -/
theorem lt_fixedDigits_append {sign : Char} (hSign : sign < '0') (width n : Nat) (x y : List Char) :
    sign :: x < fixedDigits (width + 1) n ++ y := by
  induction width generalizing n y with
  | zero =>
      refine List.cons_lt_cons_iff.mpr (.inl (lt_of_lt_of_le hSign ?_))
      have hDigit : n % 10 < 10 := Nat.mod_lt n (by decide)
      interval_cases n % 10 <;> decide
  | succ width ih =>
      rw [fixedDigits, List.append_assoc]
      exact ih (n / 10) _

/-- Only the last digits are written. -/
theorem fixedDigits_mod (width n : Nat) : fixedDigits width (n % 10 ^ width) = fixedDigits width n := by
  induction width generalizing n with
  | zero => rfl
  | succ width ih =>
      have hRest : n % 10 ^ (width + 1) / 10 = n / 10 % 10 ^ width := by
        rw [Nat.pow_succ', Nat.mod_mul_right_div_self]
      have hLast : n % 10 ^ (width + 1) % 10 = n % 10 :=
        Nat.mod_mod_of_dvd n (Dvd.intro_left (10 ^ width) rfl)
      rw [fixedDigits, fixedDigits, hRest, hLast, ih]

theorem fixedDigits_add (high low n : Nat) :
    fixedDigits (high + low) n = fixedDigits high (n / 10 ^ low) ++ fixedDigits low n := by
  induction low generalizing n with
  | zero => simp [fixedDigits]
  | succ low ih =>
      rw [← Nat.add_assoc, fixedDigits, ih, fixedDigits, List.append_assoc, Nat.div_div_eq_div_mul,
        Nat.pow_succ']

end CardLedger.Number
