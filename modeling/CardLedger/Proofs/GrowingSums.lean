import CardLedger.Proofs.Rounding

/-!
# Sums that do not shrink

A positive finite number never makes a sum smaller: `x ≤ x + y` wherever `x` is a number at all, although
the sum is rounded and may overflow. Brought to one exponent the mantissas are added exactly, and rounding
keeps the sum from falling below what is stored already.
-/

namespace CardLedger.Binary64

open Float.Model Float.Model.UnpackedFloat

/-! ## Comparisons with a rounded value -/

theorem isStored_of_unpack {b : BitVec Format.binary64.numBits} {s : Sign} {m : Nat} {e : Int}
    {hPos : 0 < m} (hUnpack : UnpackedFloat.unpack .binary64 b = .finite s m e hPos) : IsStored m e := by
  obtain ⟨hFits, hLow, hFull⟩ := unpack_finite hUnpack
  exact ⟨hFits, hLow, hFull⟩

theorem exponent_le_of_unpack {b : BitVec Format.binary64.numBits} {s : Sign} {m : Nat} {e : Int}
    {hPos : 0 < m} (hUnpack : UnpackedFloat.unpack .binary64 b = .finite s m e hPos) : e ≤ 971 := by
  have hBias : (Format.binary64.exponentBias : Int) + (52 : Nat) = 1075 := by decide
  have hBound : (unpackExponent b).toNat < 2 ^ 11 := (unpackExponent b).isLt
  unfold UnpackedFloat.unpack at hUnpack
  dsimp only at hUnpack
  rw [hBias] at hUnpack
  split at hUnpack
  · split at hUnpack <;> cases hUnpack
  · rename_i hNotTop
    have hBelow : (unpackExponent b).toNat ≠ 2047 := fun hTop => hNotTop (BitVec.eq_of_toNat_eq hTop)
    split at hUnpack
    · rename_i hZero
      split at hUnpack
      · cases hUnpack
      · simp only [finite.injEq] at hUnpack
        rw [hZero] at hUnpack
        simp at hUnpack
        omega
    · simp only [finite.injEq] at hUnpack
      omega

/-- Of negative numbers the one behind is the smaller one. -/
theorem isGE_then_iff {m n : Nat} {e d : Int} :
    ((compare e d).then (compare m n)).isGE = true ↔ StoredLe n d m e := by
  rw [← Ordering.isLE_swap, Ordering.swap_then, Int.compare_swap, Nat.compare_swap]
  exact isLE_then_iff

/-- A positive number of the store is not above what a larger value is rounded to. -/
theorem compare_rounded_positive {m : Nat} {e : Int} {v : ℚ} {u : UnpackedFloat} (hPos : 0 < m)
    (hStored : IsStored m e) (hRounded : IsRounded .positive v u) (hLe : value m e ≤ v) :
    ((UnpackedFloat.finite .positive m e hPos).compare
      (UnpackedFloat.unpack .binary64 (UnpackedFloat.pack .binary64 u))).any (·.isLE) = true := by
  cases hRounded with
  | zero hTiny => exact absurd hLe (hTiny m e hStored hPos)
  | finite q t hSome hRoundedStored hLower hUpper =>
      rw [unpack_pack_of_isStored _ _ hRoundedStored]
      split
      · rfl
      · simpa [UnpackedFloat.compare] using isLE_then_iff.mpr (hLower m e hStored hLe)

/-- A negative number of the store is not above what a smaller amount below zero is rounded to. -/
theorem compare_rounded_negative {m : Nat} {e : Int} {v : ℚ} {u : UnpackedFloat} (hPos : 0 < m)
    (hStored : IsStored m e) (hTop : e ≤ 971) (hRounded : IsRounded .negative v u) (hLe : v ≤ value m e) :
    ((UnpackedFloat.finite .negative m e hPos).compare
      (UnpackedFloat.unpack .binary64 (UnpackedFloat.pack .binary64 u))).any (·.isLE) = true := by
  cases hRounded with
  | zero hTiny => rfl
  | finite q t hSome hRoundedStored hLower hUpper =>
      have hBehind := hUpper m e hStored hLe
      rw [unpack_pack_of_isStored _ _ hRoundedStored]
      split
      · rcases hBehind with hLess | ⟨hSame, -⟩
        · omega
        · omega
      · simpa [UnpackedFloat.compare] using isGE_then_iff.mpr hBehind

theorem compare_hasSign_positive {u w : UnpackedFloat} (hw : HasSign .positive w)
    (hu : (∃ s, u = .zero s) ∨ ∃ m e h, u = .finite .negative m e h) :
    (u.compare w).any (·.isLE) = true := by
  rcases hu with ⟨s, rfl⟩ | ⟨m, e, h, rfl⟩
  · cases w with
    | notANumber => exact hw.elim
    | infinity t => obtain rfl : t = .positive := hw; rfl
    | zero t => rfl
    | finite t n d k => obtain rfl : t = .positive := hw; rfl
  · cases w with
    | notANumber => exact hw.elim
    | infinity t => obtain rfl : t = .positive := hw; rfl
    | zero t => rfl
    | finite t n d k => obtain rfl : t = .positive := hw; rfl

/-! ## Sums -/

theorem value_add (m n : Nat) (e : Int) : value (m + n) e = value m e + value n e := by
  unfold value
  push_cast
  ring

theorem value_nonneg (m : Nat) (e : Int) : 0 ≤ value m e :=
  mul_nonneg (Nat.cast_nonneg m) (two_zpow_pos e).le

/-- A stored number is not above the rounded sum of it and a positive number. -/
theorem compare_add_positive {b : BitVec Format.binary64.numBits} {s : Sign} {m n : Nat} {e d : Int}
    {hm : 0 < m} (hUnpack : UnpackedFloat.unpack .binary64 b = .finite s m e hm) (hn : 0 < n) :
    ((UnpackedFloat.finite s m e hm).compare (UnpackedFloat.unpack .binary64 (UnpackedFloat.pack .binary64
      (UnpackedFloat.add .binary64 (.finite s m e hm) (.finite .positive n d hn))))).any (·.isLE) = true := by
  have hStored := isStored_of_unpack hUnpack
  obtain ⟨k, hk⟩ : ∃ k, k = min e d := ⟨_, rfl⟩
  have hLong : value (m <<< (e - k).toNat) k = value m e := value_shiftLeft (by omega)
  have hMore : 0 < n <<< (d - k).toNat := by
    rw [Nat.shiftLeft_eq]
    positivity
  have hSum : UnpackedFloat.add .binary64 (.finite s m e hm) (.finite .positive n d hn) =
      UnpackedFloat.normalize .binary64
        (s.apply ↑(m <<< (e - k).toNat) + ↑(n <<< (d - k).toNat)) k .positive := by
    rw [hk]
    rfl
  rw [hSum]
  generalize m <<< (e - k).toNat = long at hLong
  generalize n <<< (d - k).toNat = more at hMore
  cases s with
  | positive =>
      -- the exact sum is above the number, and rounding keeps it from falling below
      have hGreater : compare ((long : Int) + more) 0 = .gt := Int.compare_eq_gt.mpr (by omega)
      have hRounded := isRounded_round .positive (m := long + more) (by omega) k
      have hLe : value m e ≤ value (long + more) k := by
        rw [value_add, hLong]
        exact le_add_of_nonneg_right (value_nonneg more k)
      unfold UnpackedFloat.normalize Sign.apply
      dsimp only
      rw [hGreater]
      exact compare_rounded_positive hm hStored hRounded hLe
  | negative =>
      unfold Sign.apply
      dsimp only
      by_cases hBelow : more < long
      · -- what is left below zero is less than before
        have hLess : compare (-(long : Int) + more) 0 = .lt := Int.compare_eq_lt.mpr (by omega)
        have hRest : (-(-(long : Int) + more)).toNat = long - more := by omega
        have hRounded := isRounded_round .negative (m := long - more) (by omega) k
        have hLe : value (long - more) k ≤ value m e := by
          rw [← hLong]
          exact value_le_iff.mpr (Nat.sub_le long more)
        unfold UnpackedFloat.normalize
        rw [hLess]
        dsimp only
        rw [hRest]
        exact compare_rounded_negative hm hStored (exponent_le_of_unpack hUnpack) hRounded hLe
      · have hSign := hasSign_normalize (m := -(long : Int) + more) .binary64 (by omega) k
        exact compare_hasSign_positive (hasSign_unpack_pack hSign) (.inr ⟨m, e, hm, rfl⟩)

/-! ## Numbers -/

section Numbers

variable {x y z : Float}

theorem exists_finite_of_pos (hFinite : y.isFinite = true) (hPos : 0 < y) :
    ∃ n d hn, y.toModel.unpack = .finite .positive n d hn := by
  have hZero : (0 : Float).toModel.unpack = .zero .positive := rfl
  change y.toModel.unpack.isFinite = true at hFinite
  rw [lt_iff_compare, hZero] at hPos
  cases hUnpack : y.toModel.unpack with
  | notANumber => rw [hUnpack] at hFinite; cases hFinite
  | infinity s => rw [hUnpack] at hFinite; cases hFinite
  | zero s => rw [hUnpack] at hPos; cases hPos
  | finite s n d hn =>
      cases s with
      | positive => exact ⟨n, d, hn, rfl⟩
      | negative => rw [hUnpack] at hPos; cases hPos

/-- A sum with a positive number is not below the other one. -/
theorem le_add_of_pos (hx : x.isNaN = false) (hFinite : y.isFinite = true) (hPos : 0 < y) : x ≤ x + y := by
  obtain ⟨n, d, hn, hy⟩ := exists_finite_of_pos hFinite hPos
  obtain ⟨s, hSign⟩ := isNaN_iff_unpack.mp hx
  have hSum : (x + y).toModel.unpack = UnpackedFloat.unpack .binary64 (UnpackedFloat.pack .binary64
      (UnpackedFloat.add .binary64 x.toModel.unpack y.toModel.unpack)) := rfl
  rw [le_iff_compare, hSum, hy]
  cases hUnpack : x.toModel.unpack with
  | notANumber => rw [hUnpack] at hSign; exact hSign.elim
  | infinity t =>
      have hBack : UnpackedFloat.unpack .binary64 (UnpackedFloat.pack .binary64 (.infinity t)) = .infinity t :=
        unpack_infinity t
      change ((UnpackedFloat.infinity t).compare (UnpackedFloat.unpack .binary64
        (UnpackedFloat.pack .binary64 (.infinity t)))).any (·.isLE) = true
      rw [hBack]
      cases t <;> rfl
  | zero t =>
      have hOther : HasSign .positive (UnpackedFloat.add .binary64 (.zero t) (.finite .positive n d hn)) := rfl
      exact compare_hasSign_positive (hasSign_unpack_pack hOther) (.inl ⟨t, rfl⟩)
  | finite t m e hm => exact compare_add_positive hUnpack hn

/-- The place of a number that is not NaN: the infinities outside, then exponent and mantissa. -/
def place : UnpackedFloat → ℤ ×ₗ ℤ ×ₗ ℤ
  | .notANumber => toLex (0, toLex (0, 0))
  | .infinity .negative => toLex (-2, toLex (0, 0))
  | .finite .negative m e _ => toLex (-1, toLex (-e, -m))
  | .zero _ => toLex (0, toLex (0, 0))
  | .finite .positive m e _ => toLex (1, toLex (e, m))
  | .infinity .positive => toLex (2, toLex (0, 0))

theorem compare_isLE_iff_place {u v : UnpackedFloat} (hu : u.isNaN = false) (hv : v.isNaN = false) :
    (u.compare v).any (·.isLE) = true ↔ place u ≤ place v := by
  cases u with
  | notANumber => cases hu
  | infinity s =>
      cases v with
      | notANumber => cases hv
      | infinity t =>
          cases s <;> cases t <;> simp [UnpackedFloat.compare, place, Prod.Lex.toLex_le_toLex] <;> decide
      | zero t => cases s <;> simp [UnpackedFloat.compare, place, Prod.Lex.toLex_le_toLex]
      | finite t n d hn => cases s <;> cases t <;> simp [UnpackedFloat.compare, place, Prod.Lex.toLex_le_toLex]
  | zero s =>
      cases v with
      | notANumber => cases hv
      | infinity t => cases t <;> simp [UnpackedFloat.compare, place, Prod.Lex.toLex_le_toLex]
      | zero t => simp [UnpackedFloat.compare, place]
      | finite t n d hn => cases t <;> simp [UnpackedFloat.compare, place, Prod.Lex.toLex_le_toLex]
  | finite s m e hm =>
      cases v with
      | notANumber => cases hv
      | infinity t => cases s <;> cases t <;> simp [UnpackedFloat.compare, place, Prod.Lex.toLex_le_toLex]
      | zero t => cases s <;> simp [UnpackedFloat.compare, place, Prod.Lex.toLex_le_toLex]
      | finite t n d hn =>
          cases s with
          | positive =>
              cases t with
              | positive =>
                  have hCompare := isLE_then_iff (m := n) (n := m) (e := d) (d := e)
                  simp [UnpackedFloat.compare, place, Prod.Lex.toLex_le_toLex, hCompare]
              | negative => simp [UnpackedFloat.compare, place, Prod.Lex.toLex_le_toLex]
          | negative =>
              cases t with
              | positive => simp [UnpackedFloat.compare, place, Prod.Lex.toLex_le_toLex]
              | negative =>
                  have hCompare := isGE_then_iff (m := m) (n := n) (e := e) (d := d)
                  simp [UnpackedFloat.compare, place, Prod.Lex.toLex_le_toLex, hCompare, StoredLe,
                    eq_comm (a := e)]

theorem isNaN_of_le (hLe : x ≤ y) : x.isNaN = false ∧ y.isNaN = false := by
  have hSome : x.toModel.unpack.compare y.toModel.unpack ≠ none := by
    intro hNone
    rw [le_iff_compare, hNone] at hLe
    cases hLe
  obtain ⟨hx, hy⟩ := not_or.mp (compare_eq_none_iff.not.mp hSome)
  exact ⟨Bool.eq_false_of_not_eq_true hx, Bool.eq_false_of_not_eq_true hy⟩

/-- Comparisons can be chained: a number that is not NaN is on either side of each. -/
theorem le_trans (hxy : x ≤ y) (hyz : y ≤ z) : x ≤ z := by
  obtain ⟨hx, hy⟩ := isNaN_of_le hxy
  obtain ⟨-, hz⟩ := isNaN_of_le hyz
  rw [le_iff_compare] at *
  rw [compare_isLE_iff_place hx hy] at hxy
  rw [compare_isLE_iff_place hy hz] at hyz
  exact (compare_isLE_iff_place hx hz).mpr (hxy.trans hyz)

theorem le_refl (hx : x.isNaN = false) : x ≤ x :=
  le_iff_compare.mpr ((compare_isLE_iff_place hx hx).mpr le_rfl)

end Numbers

end CardLedger.Binary64
