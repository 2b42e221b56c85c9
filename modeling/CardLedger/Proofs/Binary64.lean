import Mathlib

/-!
# Order and signs of binary64 numbers

The facts on binary64 arithmetic that the ledger rests on, proved from the bit model of `Float`:

* `le_of_not_lt`, `not_le_of_lt` — numbers that are not NaN are totally ordered.
* `sub_nonneg` — taking a finite number off one that is at least as large leaves no debt.
* `add_nonneg` — a sum of two numbers that are not negative is not negative.
* `isNaN_add` — adding a finite number never makes a NaN.

No rounding is analysed: rounding keeps the sign, and that is all that is needed.
-/

namespace CardLedger.Binary64

open Float.Model Float.Model.UnpackedFloat

/-! ## Signs of unpacked numbers -/

/-- A number, not NaN, with a sign. -/
def HasSign (s : Sign) : UnpackedFloat → Prop
  | .notANumber => False
  | .infinity t => t = s
  | .zero t => t = s
  | .finite t _ _ _ => t = s

/-- A number that compares as not negative: one of positive sign, or the negative zero. -/
def IsNonneg (u : UnpackedFloat) : Prop :=
  HasSign .positive u ∨ u = .zero .negative

@[simp]
theorem sign_packComponents {spec : Format} {s : Sign} {e : BitVec spec.exponentBits}
    {m : BitVec spec.mantissaBitsWithoutImplicit} :
    Sign.ofBitVec (unpackSign (packComponents spec s e m)) = s := by
  have hSign : unpackSign (packComponents spec s e m) = s.toBitVec := by
    ext i hi
    simp [unpackSign, packComponents, BitVec.getLsbD_append, BitVec.getElem_append,
      Nat.lt_one_iff.mp hi]
  rw [hSign]
  cases s <;> rfl

/-- Bits that are not those of a NaN are read back with the sign they were put together with. -/
theorem hasSign_unpack_packComponents (s : Sign) (e : BitVec 11) (m : BitVec 52)
    (hNumber : e = -1#_ → m = 0#_) :
    HasSign s (UnpackedFloat.unpack .binary64 (packComponents .binary64 s e m)) := by
  unfold UnpackedFloat.unpack
  simp only [unpackMantissa_packComponents, unpackExponent_packComponents, sign_packComponents]
  split
  · -- the exponent of the infinities: the mantissa must not make it a NaN
    rename_i hTop
    rw [if_pos (hNumber hTop)]
    rfl
  · split
    · split <;> rfl
    · rfl

/-- Packing keeps the sign, also where it overflows or has not been rounded. -/
theorem hasSign_unpack_pack {s : Sign} {u : UnpackedFloat} (hSign : HasSign s u) :
    HasSign s (UnpackedFloat.unpack .binary64 (UnpackedFloat.pack .binary64 u)) := by
  cases u with
  | notANumber => exact hSign.elim
  | infinity t =>
      obtain rfl : t = s := hSign
      exact hasSign_unpack_packComponents _ _ _ fun _ => rfl
  | zero t =>
      obtain rfl : t = s := hSign
      exact hasSign_unpack_packComponents _ _ _ fun _ => rfl
  | finite t m e hm =>
      obtain rfl : t = s := hSign
      unfold UnpackedFloat.pack
      dsimp only
      split
      · exact hasSign_unpack_packComponents _ _ _ fun _ => rfl
      · rename_i hBelow
        split
        · -- the exponent is below the one that NaN and the infinities have.
          refine hasSign_unpack_packComponents _ _ _ fun hTop => absurd hTop ?_
          intro hTop
          have hBits := congrArg BitVec.toNat hTop
          simp only [BitVec.toNat_ofNat] at hBits
          change _ = 2047 at hBits
          omega
        · exact hasSign_unpack_packComponents _ _ _ fun hTop => absurd hTop (by decide)

theorem isNonneg_zero (s : Sign) : IsNonneg (.zero s) := by
  cases s with
  | negative => exact .inr rfl
  | positive => exact .inl rfl

theorem isNonneg_unpack_pack {u : UnpackedFloat} (hNonneg : IsNonneg u) :
    IsNonneg (UnpackedFloat.unpack .binary64 (UnpackedFloat.pack .binary64 u)) := by
  rcases hNonneg with hSign | rfl
  · exact .inl (hasSign_unpack_pack hSign)
  · exact .inr rfl

/-! ## Signs of rounded results -/

theorem hasSign_round (spec : Format) (s : Sign) (m : Nat) (e : Int) :
    HasSign s (UnpackedFloat.round spec s m e) := by
  simp only [UnpackedFloat.round, roundWithAccuracy]
  split <;> rfl

theorem hasSign_normalize {m : Int} (spec : Format) (hm : 0 ≤ m) (e : Int) :
    HasSign .positive (UnpackedFloat.normalize spec m e .positive) := by
  unfold UnpackedFloat.normalize
  split
  · rename_i hLt
    have := Int.compare_eq_lt.mp hLt
    omega
  · rfl
  · exact hasSign_round _ _ _ _

theorem exists_hasSign_normalize (spec : Format) (m e : Int) :
    ∃ s, HasSign s (UnpackedFloat.normalize spec m e .positive) := by
  unfold UnpackedFloat.normalize
  split
  · exact ⟨_, hasSign_round _ _ _ _⟩
  · exact ⟨_, rfl⟩
  · exact ⟨_, hasSign_round _ _ _ _⟩

/-! ## Comparison of unpacked numbers -/

theorem sign_compare_swap (s t : Sign) : compare t s = (compare s t).swap := by
  cases s <;> cases t <;> rfl

theorem compare_swap (u v : UnpackedFloat) : v.compare u = (u.compare v).map Ordering.swap := by
  cases u with
  | notANumber => cases v <;> simp [UnpackedFloat.compare]
  | infinity s =>
      cases v with
      | infinity t => simp [UnpackedFloat.compare, sign_compare_swap s t]
      | _ => cases s <;> simp [UnpackedFloat.compare]
  | zero s =>
      cases v with
      | infinity t => cases t <;> simp [UnpackedFloat.compare]
      | finite t m e h => cases t <;> simp [UnpackedFloat.compare]
      | _ => simp [UnpackedFloat.compare]
  | finite s m e h =>
      cases v with
      | finite t n d k =>
          cases s <;> cases t <;>
            simp [UnpackedFloat.compare, Ordering.swap_then, Int.compare_swap e d,
              Nat.compare_swap m n]
      | infinity t => cases t <;> simp [UnpackedFloat.compare]
      | zero t => cases s <;> simp [UnpackedFloat.compare]
      | notANumber => simp [UnpackedFloat.compare]

theorem compare_eq_none_iff {u v : UnpackedFloat} :
    u.compare v = none ↔ u.isNaN = true ∨ v.isNaN = true := by
  cases u with
  | notANumber => cases v <;> simp [UnpackedFloat.compare, UnpackedFloat.isNaN]
  | infinity s => cases v <;> cases s <;> simp [UnpackedFloat.compare, UnpackedFloat.isNaN]
  | zero s =>
      cases v with
      | infinity t => cases t <;> simp [UnpackedFloat.compare, UnpackedFloat.isNaN]
      | finite t m e h => cases t <;> simp [UnpackedFloat.compare, UnpackedFloat.isNaN]
      | _ => simp [UnpackedFloat.compare, UnpackedFloat.isNaN]
  | finite s m e h =>
      cases v with
      | finite t n d k => cases s <;> cases t <;> simp [UnpackedFloat.compare, UnpackedFloat.isNaN]
      | infinity t => cases t <;> simp [UnpackedFloat.compare, UnpackedFloat.isNaN]
      | zero t => cases s <;> simp [UnpackedFloat.compare, UnpackedFloat.isNaN]
      | notANumber => simp [UnpackedFloat.compare, UnpackedFloat.isNaN]

theorem isLE_then_iff {m n : Nat} {e d : Int} :
    ((compare d e).then (compare n m)).isLE = true ↔ d < e ∨ d = e ∧ n ≤ m := by
  rw [Ordering.isLE_then_iff_or, Int.compare_eq_lt, Int.compare_eq_eq, Nat.isLE_compare]

/-! ## Finite operands

What is unpacked has a full mantissa unless its exponent is the least one, so that of two numbers
the one with the larger exponent is the larger one. -/

theorem unpack_finite {b : BitVec Format.binary64.numBits} {s : Sign} {m : Nat} {e : Int}
    {hm : 0 < m} (hUnpack : UnpackedFloat.unpack .binary64 b = .finite s m e hm) :
    m < 2 ^ 53 ∧ -1074 ≤ e ∧ (e = -1074 ∨ 2 ^ 52 ≤ m) := by
  have hBias : Format.binary64.exponentBias = 1023 := by decide
  have hMantissa : (unpackMantissa b).toNat < 2 ^ 52 := (unpackMantissa b).isLt
  unfold UnpackedFloat.unpack at hUnpack
  dsimp only at hUnpack
  split at hUnpack
  · split at hUnpack <;> simp at hUnpack
  · split at hUnpack
    · -- the least exponent, where the mantissa need not be full
      rename_i hZero
      split at hUnpack
      · simp at hUnpack
      · simp only [finite.injEq] at hUnpack
        obtain ⟨-, rfl, rfl⟩ := hUnpack
        rw [hZero, hBias]
        simp
        omega
    · -- any other exponent, where the implicit bit stands above the stored mantissa
      rename_i hZero
      simp only [finite.injEq] at hUnpack
      obtain ⟨-, rfl, rfl⟩ := hUnpack
      have hPos : (unpackExponent b).toNat ≠ 0 := by
        intro h0
        exact hZero (BitVec.eq_of_toNat_eq (by simpa using h0))
      rw [hBias, BitVec.toNat_append, ← Nat.shiftLeft_add_eq_or_of_lt hMantissa]
      simp only [Nat.shiftLeft_eq]
      simp at *
      omega

/-- Brought to one exponent, the mantissas of two numbers are in the order of the numbers. -/
theorem aligned_le {m n : Nat} {e d k : Int} (hn : n < 2 ^ 53) (hd : -1074 ≤ d)
    (hm : e = -1074 ∨ 2 ^ 52 ≤ m) (hLex : d < e ∨ d = e ∧ n ≤ m) (hk : k = min e d) :
    n <<< (d - k).toNat ≤ m <<< (e - k).toNat := by
  subst hk
  rw [Nat.shiftLeft_eq, Nat.shiftLeft_eq]
  rcases hLex with hLt | ⟨rfl, hLe⟩
  · -- the larger exponent is not the least one, so its mantissa is full and makes up for one shift
    have hNormal : 2 ^ 52 ≤ m := by omega
    have hShift : (e - min e d).toNat = (e - d - 1).toNat + 1 := by omega
    have hStay : (d - min e d).toNat = 0 := by omega
    have hPow : 1 ≤ 2 ^ (e - d - 1).toNat := Nat.one_le_two_pow
    rw [hShift, hStay, Nat.pow_succ]
    calc n * 2 ^ 0 ≤ m * 2 := by omega
      _ ≤ m * (2 ^ (e - d - 1).toNat * 2) := Nat.mul_le_mul_left m (by omega)
  · exact Nat.mul_le_mul_right _ hLe

/-- The difference of the aligned mantissas of two finite numbers is not negative if the first
number is at least the second. -/
theorem aligned_sub_nonneg {b c : BitVec Format.binary64.numBits} {s t : Sign} {m n : Nat}
    {e d : Int} {hm : 0 < m} {hn : 0 < n}
    (hu : UnpackedFloat.unpack .binary64 b = .finite s m e hm)
    (hv : UnpackedFloat.unpack .binary64 c = .finite t n d hn)
    (hLe : ((UnpackedFloat.finite t n d hn).compare (.finite s m e hm)).any (·.isLE) = true) :
    0 ≤ s.apply ↑(m <<< (e - min e d).toNat) - t.apply ↑(n <<< (d - min e d).toNat) := by
  obtain ⟨hmTop, heLow, hmFull⟩ := unpack_finite hu
  obtain ⟨hnTop, hdLow, hnFull⟩ := unpack_finite hv
  cases s with
  | positive =>
      cases t with
      | positive =>
          have hLex := isLE_then_iff.mp (by simpa [UnpackedFloat.compare] using hLe)
          have hAligned := aligned_le hnTop hdLow hmFull hLex rfl
          exact Int.sub_nonneg_of_le (Int.ofNat_le.mpr hAligned)
      | negative =>
          simp only [Sign.apply, Int.sub_neg]
          exact Int.add_nonneg (Int.natCast_nonneg _) (Int.natCast_nonneg _)
  | negative =>
      cases t with
      | positive => simp [UnpackedFloat.compare] at hLe
      | negative =>
          -- of two negative numbers the one with the smaller mantissa is the larger
          have hSwap : ((compare d e).then (compare n m)).swap =
              (compare e d).then (compare m n) := by
            rw [Ordering.swap_then, Int.compare_swap, Nat.compare_swap]
          have hLex := isLE_then_iff.mp (by
            simpa only [UnpackedFloat.compare, hSwap, Option.any_some] using hLe)
          have hAligned := aligned_le hmTop heLow hnFull hLex (Int.min_comm e d)
          have hCast := Int.ofNat_le.mpr hAligned
          simp only [Sign.apply]
          generalize m <<< (e - min e d).toNat = larger at *
          generalize n <<< (d - min e d).toNat = smaller at *
          omega

/-! ## Sums and differences of unpacked numbers -/

theorem exists_add_zero_zero (s t : Sign) :
    ∃ r, UnpackedFloat.add .binary64 (.zero s) (.zero t) = .zero r := by
  cases s <;> cases t <;> exact ⟨_, rfl⟩

theorem exists_sub_zero_zero (s t : Sign) :
    ∃ r, UnpackedFloat.sub .binary64 (.zero s) (.zero t) = .zero r := by
  cases s <;> cases t <;> exact ⟨_, rfl⟩

theorem isNonneg_sub {b c : BitVec Format.binary64.numBits} {u v : UnpackedFloat}
    (hu : UnpackedFloat.unpack .binary64 b = u) (hv : UnpackedFloat.unpack .binary64 c = v)
    (hFinite : v.isFinite = true) (hLe : (v.compare u).any (·.isLE) = true) :
    IsNonneg (UnpackedFloat.sub .binary64 u v) := by
  cases v with
  | notANumber => simp [UnpackedFloat.isFinite] at hFinite
  | infinity t => simp [UnpackedFloat.isFinite] at hFinite
  | zero t =>
      cases u with
      | notANumber => simp [UnpackedFloat.compare] at hLe
      | infinity s =>
          cases s with
          | negative => simp [UnpackedFloat.compare] at hLe
          | positive => exact .inl rfl
      | zero s =>
          obtain ⟨r, hr⟩ := exists_sub_zero_zero s t
          rw [hr]
          exact isNonneg_zero r
      | finite s m e hm =>
          cases s with
          | negative => simp [UnpackedFloat.compare] at hLe
          | positive => exact .inl rfl
  | finite t n d hn =>
      cases u with
      | notANumber => simp [UnpackedFloat.compare] at hLe
      | infinity s =>
          cases s with
          | negative => simp [UnpackedFloat.compare] at hLe
          | positive => exact .inl rfl
      | zero s =>
          cases t with
          | negative => exact .inl rfl
          | positive => simp [UnpackedFloat.compare] at hLe
      | finite s m e hm =>
          exact .inl (hasSign_normalize _ (aligned_sub_nonneg hu hv hLe) _)

theorem isNonneg_add {u v : UnpackedFloat} (hu : IsNonneg u) (hv : IsNonneg v) :
    IsNonneg (UnpackedFloat.add .binary64 u v) := by
  cases u with
  | notANumber => simp [IsNonneg, HasSign] at hu
  | infinity s =>
      obtain rfl : s = .positive := by simpa [IsNonneg, HasSign] using hu
      cases v with
      | notANumber => simp [IsNonneg, HasSign] at hv
      | infinity t =>
          -- infinities of two signs would make a NaN, but neither operand is negative
          obtain rfl : t = .positive := by simpa [IsNonneg, HasSign] using hv
          exact .inl rfl
      | zero t => exact .inl rfl
      | finite t n d hn => exact .inl rfl
  | zero s =>
      cases v with
      | notANumber => simp [IsNonneg, HasSign] at hv
      | infinity t => exact hv
      | zero t =>
          obtain ⟨r, hr⟩ := exists_add_zero_zero s t
          rw [hr]
          exact isNonneg_zero r
      | finite t n d hn => exact hv
  | finite s m e hm =>
      obtain rfl : s = .positive := by simpa [IsNonneg, HasSign] using hu
      cases v with
      | notANumber => simp [IsNonneg, HasSign] at hv
      | infinity t => exact hv
      | zero t => exact .inl rfl
      | finite t n d hn =>
          obtain rfl : t = .positive := by simpa [IsNonneg, HasSign] using hv
          refine .inl (hasSign_normalize _ ?_ _)
          exact Int.add_nonneg (Int.natCast_nonneg _) (Int.natCast_nonneg _)

/-- Adding a finite number does not give a NaN: the one operand that may be infinite decides alone. -/
theorem exists_hasSign_add {s : Sign} {u v : UnpackedFloat} (hu : HasSign s u)
    (hFinite : v.isFinite = true) : ∃ t, HasSign t (UnpackedFloat.add .binary64 u v) := by
  cases v with
  | notANumber => simp [UnpackedFloat.isFinite] at hFinite
  | infinity t => simp [UnpackedFloat.isFinite] at hFinite
  | zero t =>
      cases u with
      | notANumber => exact hu.elim
      | infinity s => exact ⟨_, rfl⟩
      | zero s =>
          obtain ⟨p, hp⟩ := exists_add_zero_zero s t
          rw [hp]
          exact ⟨_, rfl⟩
      | finite s m e hm => exact ⟨_, rfl⟩
  | finite t n d hn =>
      cases u with
      | notANumber => exact hu.elim
      | infinity s => exact ⟨_, rfl⟩
      | zero s => exact ⟨_, rfl⟩
      | finite s m e hm => exact exists_hasSign_normalize _ _ _

theorem isNaN_eq_false_iff {u : UnpackedFloat} : u.isNaN = false ↔ ∃ s, HasSign s u := by
  cases u <;> simp [UnpackedFloat.isNaN, HasSign]

/-! ## Numbers -/

section Numbers

variable {x y : Float}

theorem le_iff_compare :
    x ≤ y ↔ (x.toModel.unpack.compare y.toModel.unpack).any (·.isLE) = true := by
  change Float.le x y = true ↔ _
  unfold Float.le
  rw [decide_eq_true_iff]
  rfl

theorem lt_iff_compare : x < y ↔ x.toModel.unpack.compare y.toModel.unpack = some .lt := by
  change Float.lt x y = true ↔ _
  unfold Float.lt
  rw [decide_eq_true_iff]
  change (_ == _) = true ↔ _
  rw [beq_iff_eq]

theorem zero_le_iff : 0 ≤ x ↔ IsNonneg x.toModel.unpack := by
  have hZero : (0 : Float).toModel.unpack = .zero .positive := rfl
  rw [le_iff_compare, hZero]
  cases x.toModel.unpack with
  | notANumber => simp [UnpackedFloat.compare, IsNonneg, HasSign]
  | infinity s => cases s <;> simp [UnpackedFloat.compare, IsNonneg, HasSign]
  | zero s => cases s <;> simp [UnpackedFloat.compare, IsNonneg, HasSign]
  | finite s m e h => cases s <;> simp [UnpackedFloat.compare, IsNonneg, HasSign]

theorem isNaN_iff_unpack : x.isNaN = false ↔ ∃ s, HasSign s x.toModel.unpack :=
  isNaN_eq_false_iff

theorem le_of_lt (hLt : x < y) : x ≤ y := by
  rw [lt_iff_compare] at hLt
  rw [le_iff_compare, hLt]
  rfl

theorem not_le_of_lt (hLt : x < y) : ¬ y ≤ x := by
  rw [lt_iff_compare] at hLt
  rw [le_iff_compare, compare_swap, hLt]
  simp

theorem le_of_not_lt (hx : x.isNaN = false) (hy : y.isNaN = false) (hNotLt : ¬ x < y) : y ≤ x := by
  rw [lt_iff_compare] at hNotLt
  rw [le_iff_compare, compare_swap]
  cases hCompare : x.toModel.unpack.compare y.toModel.unpack with
  | none =>
      rcases compare_eq_none_iff.mp hCompare with hNaN | hNaN
      · exact absurd (hx.symm.trans hNaN) (by decide)
      · exact absurd (hy.symm.trans hNaN) (by decide)
  | some o =>
      rw [hCompare] at hNotLt
      cases o <;> simp at hNotLt ⊢

theorem not_lt_iff (hx : x.isNaN = false) (hy : y.isNaN = false) : ¬ x < y ↔ y ≤ x :=
  ⟨le_of_not_lt hx hy, fun hLe hLt => not_le_of_lt hLt hLe⟩

theorem not_le_iff (hx : x.isNaN = false) (hy : y.isNaN = false) : ¬ x ≤ y ↔ y < x := by
  rw [← not_lt_iff hy hx, not_not]

theorem isNaN_of_zero_le (hx : 0 ≤ x) : x.isNaN = false := by
  rw [isNaN_iff_unpack]
  rcases zero_le_iff.mp hx with hSign | hZero
  · exact ⟨_, hSign⟩
  · rw [hZero]
    exact ⟨_, rfl⟩

theorem isNaN_of_isFinite (hx : x.isFinite = true) : x.isNaN = false := by
  change x.toModel.unpack.isFinite = true at hx
  change x.toModel.unpack.isNaN = false
  cases hUnpack : x.toModel.unpack <;> simp_all [UnpackedFloat.isFinite, UnpackedFloat.isNaN]

/-- A finite number can be taken off one that is at least as large. -/
theorem sub_nonneg (hy : y.isFinite = true) (hLe : y ≤ x) : 0 ≤ x - y := by
  rw [zero_le_iff]
  exact isNonneg_unpack_pack (isNonneg_sub rfl rfl hy (le_iff_compare.mp hLe))

theorem add_nonneg (hx : 0 ≤ x) (hy : 0 ≤ y) : 0 ≤ x + y := by
  rw [zero_le_iff] at *
  exact isNonneg_unpack_pack (isNonneg_add hx hy)

theorem isNaN_add (hx : x.isNaN = false) (hy : y.isFinite = true) : (x + y).isNaN = false := by
  obtain ⟨s, hs⟩ := isNaN_iff_unpack.mp hx
  obtain ⟨t, ht⟩ := exists_hasSign_add hs hy
  exact isNaN_iff_unpack.mpr ⟨t, hasSign_unpack_pack ht⟩

end Numbers

end CardLedger.Binary64
