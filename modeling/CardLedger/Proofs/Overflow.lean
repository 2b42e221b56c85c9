import CardLedger.Proofs.GrowingSums

/-!
# Sums that overflow

Where binary64 arithmetic leaves the finite numbers. A sum of finite numbers that are not negative becomes
infinite exactly if the exact sum reaches the middle between the largest finite number and the power of two
after it; the middle itself is rounded up, since the largest mantissa is odd. Taking off what is covered never
overflows, and the infinity is left neither by adding nor by taking off a finite number.

Main statements: `isFinite_add_iff`, `isFinite_sub`, `inf_add`, `inf_sub`.
-/

namespace CardLedger.Binary64

open Float.Model Float.Model.UnpackedFloat

/-! ## The last place -/

/-- The round bit is the bit that was shifted out last. -/
theorem roundBit_shiftRight_succ (m n : Nat) :
    ((⟨m, false, false⟩ : ExtendedMantissa) >>> (n + 1)).roundBit = (m / 2 ^ n % 2 != 0) := by
  rw [shiftRight_succ]
  unfold ExtendedMantissa.shiftRightOne
  rw [(shiftRight_exact m n).1]

/-- An odd mantissa is rounded up from the middle on. -/
theorem roundedMantissa_of_odd {em : ExtendedMantissa} (hOdd : em.mantissa % 2 = 1) :
    em.roundedMantissa = if em.roundBit then em.mantissa + 1 else em.mantissa := by
  obtain ⟨m, roundBit, stickyBit⟩ := em
  cases roundBit <;> cases stickyBit <;>
    simp [ExtendedMantissa.roundedMantissa, ExtendedMantissa.accuracy, Accuracy.roundToNearestEven]
  exact hOdd

/-- The rounded quotient is one place too long from the middle after the largest mantissa on. -/
theorem roundedMantissa_eq_top_iff {m n : Nat} (hSize : m < 2 ^ 53 * 2 ^ n) :
    ((⟨m, false, false⟩ : ExtendedMantissa) >>> n).roundedMantissa = 2 ^ 53 ↔ (2 ^ 54 - 1) * 2 ^ n ≤ 2 * m := by
  cases n with
  | zero =>
      have hSame : ((⟨m, false, false⟩ : ExtendedMantissa) >>> 0).roundedMantissa = m := rfl
      rw [hSame]
      omega
  | succ n =>
      have hPower : 0 < 2 ^ n := by positivity
      have hQuotient := (shiftRight_exact m (n + 1)).1
      have hBounds := roundedMantissa_bounds ((⟨m, false, false⟩ : ExtendedMantissa) >>> (n + 1))
      have hHalf : m / 2 ^ (n + 1) = m / 2 ^ n / 2 := by
        rw [Nat.pow_succ, Nat.div_div_eq_div_mul]
      have hFits : m / 2 ^ (n + 1) < 2 ^ 53 := Nat.div_lt_of_lt_mul (by rwa [Nat.mul_comm])
      have hMiddle : (2 ^ 54 - 1) * 2 ^ (n + 1) ≤ 2 * m ↔ 2 ^ 54 - 1 ≤ m / 2 ^ n := by
        rw [Nat.le_div_iff_mul_le hPower, Nat.pow_succ]
        omega
      rw [hMiddle]
      by_cases hLast : m / 2 ^ (n + 1) = 2 ^ 53 - 1
      · have hOdd : ((⟨m, false, false⟩ : ExtendedMantissa) >>> (n + 1)).mantissa % 2 = 1 := by
          rw [hQuotient, hLast]
          decide
        rw [roundedMantissa_of_odd hOdd, roundBit_shiftRight_succ, hQuotient]
        by_cases hBit : m / 2 ^ n % 2 = 0
        · rw [if_neg (by simpa using hBit)]
          omega
        · rw [if_pos (by simpa using hBit)]
          omega
      · omega

/-! ## The bound -/

/-- The middle between the largest finite number and the power of two after it. -/
def overflowBound : ℚ :=
  2 ^ 1024 - 2 ^ 970

theorem overflowBound_eq : overflowBound = value (2 ^ 54 - 1) 970 := by
  have hPower : (2 : ℚ) ^ 1024 = 2 ^ 54 * 2 ^ 970 := by rw [← pow_add]
  have hCast : (2 : ℚ) ^ (970 : Int) = 2 ^ 970 := zpow_natCast 2 970
  unfold overflowBound value
  rw [hPower, hCast]
  generalize (2 : ℚ) ^ 970 = u
  norm_num
  ring

theorem overflowBound_between : (2 : ℚ) ^ (1023 : Int) < overflowBound ∧ overflowBound < 2 ^ (1024 : Int) := by
  have hLow := value_two_pow 53 970
  have hHigh := value_two_pow 54 970
  norm_num only at hLow hHigh
  rw [overflowBound_eq, ← hLow, ← hHigh, value_lt_iff, value_lt_iff]
  norm_num

theorem largest_lt_overflowBound : value (2 ^ 53 - 1) 971 < overflowBound := by
  rw [overflowBound_eq, ← value_mul_two_pow (d := 970) (by norm_num), value_lt_iff]
  norm_num

/-- The mantissa that a value is rounded to becomes one place longer from the middle on. -/
theorem carries_iff {m : Nat} {e t : Int} (hPos : 0 < m)
    (hTarget : t = Format.binary64.targetExponent (totalExponent m e)) (hLower : e ≤ t) :
    (shiftToTargetExponent .binary64 m e .exact).1.roundedMantissa = 2 ^ 53 ↔
      value (2 ^ 54 - 1) (t - 1) ≤ value m e := by
  have hRounds := roundsTo_shiftToTargetExponent hPos hTarget hLower
  have hSize : m < 2 ^ 53 * 2 ^ (t - e).toNat := by
    rw [← value_lt_iff (e := e), value_mul_two_pow hLower, value_two_pow]
    exact hRounds.size
  have hHalf : value (2 ^ 54 - 1) (t - 1) = value (2 ^ 54 - 1) t / 2 := by
    unfold value
    rw [zpow_sub_one₀ (by norm_num)]
    ring
  have hDouble : value m e = value (2 * m) e / 2 := by
    unfold value
    push_cast
    ring
  rw [shiftToTargetExponent_of_le hTarget hLower]
  dsimp only
  rw [roundedMantissa_eq_top_iff hSize, hHalf, hDouble, div_le_div_iff_of_pos_right (by norm_num),
    ← value_mul_two_pow (m := 2 ^ 54 - 1) hLower, value_le_iff]

/-- What is rounded stays finite exactly below the bound. -/
theorem RoundsTo.lt_overflowBound_iff {v : ℚ} {q : Nat} {t : Int} (hRounds : RoundsTo v q t)
    (hCarries : q = 2 ^ 53 ↔ value (2 ^ 54 - 1) (t - 1) ≤ v) :
    v < overflowBound ↔ t < 971 ∨ t = 971 ∧ q ≠ 2 ^ 53 := by
  have hSize := hRounds.size
  rcases lt_trichotomy t 971 with hBelow | rfl | hAbove
  · have hTop : (2 : ℚ) ^ (53 + t) ≤ 2 ^ (1023 : Int) := zpow_le_zpow_right₀ (by norm_num) (by omega)
    exact iff_of_true ((hSize.trans_le hTop).trans overflowBound_between.1) (.inl hBelow)
  · rw [Ne, hCarries, overflowBound_eq]
    simp
  · have hFull := hRounds.full.resolve_left (by omega)
    have hTop : (2 : ℚ) ^ (1024 : Int) ≤ 2 ^ (52 + t) := zpow_le_zpow_right₀ (by norm_num) (by omega)
    exact iff_of_false (overflowBound_between.2.trans_le (hTop.trans hFull)).le.not_gt (by omega)

/-! ## Stored values -/

theorem IsStored.value_le_of_storedLe {m n : Nat} {e d : Int} (hStored : IsStored m e) (hOther : IsStored n d)
    (hLe : StoredLe m e n d) : value m e ≤ value n d := by
  rcases hLe with hLess | ⟨rfl, hMantissa⟩
  · have hFull := hOther.le_value (by have := hStored.low; omega)
    have hTop : (2 : ℚ) ^ (53 + e) ≤ 2 ^ (52 + d) := zpow_le_zpow_right₀ (by norm_num) (by omega)
    exact (hStored.value_lt.trans_le (hTop.trans hFull)).le
  · exact value_le_iff.mpr hMantissa

theorem IsStored.value_lt_overflowBound {m : Nat} {e : Int} (hStored : IsStored m e) (hTop : e ≤ 971) :
    value m e < overflowBound := by
  refine (hStored.value_le_of_storedLe ⟨by decide, by decide, .inr (by decide)⟩ ?_).trans_lt
    largest_lt_overflowBound
  have hFits := hStored.fits
  unfold StoredLe
  omega

/-- The exact value of an unpacked number; what is not finite counts for nothing. -/
def exactValue : UnpackedFloat → ℚ
  | .finite .positive m e _ => value m e
  | .finite .negative m e _ => -value m e
  | _ => 0

/-- An unpacked number packed and unpacked again, as the result of an operation is. -/
def repack (u : UnpackedFloat) : UnpackedFloat :=
  UnpackedFloat.unpack .binary64 (UnpackedFloat.pack .binary64 u)

theorem isFinite_repack_iff {s : Sign} {m : Nat} {e : Int} (hPos : 0 < m) (hStored : IsStored m e) :
    (repack (.finite s m e hPos)).isFinite = true ↔ e ≤ 971 := by
  unfold repack
  rw [unpack_pack_of_isStored s hPos hStored]
  by_cases hOver : 971 < e
  · rw [if_pos hOver]
    exact iff_of_false Bool.false_ne_true (by omega)
  · rw [if_neg hOver]
    exact iff_of_true rfl (by omega)

/-- A rounded value that is stored is finite exactly if the value is below the bound. -/
theorem isFinite_repack_round_iff (s : Sign) {m : Nat} (hPos : 0 < m) (e : Int) :
    (repack (UnpackedFloat.round .binary64 s m e)).isFinite = true ↔ value m e < overflowBound := by
  obtain ⟨n, d, hSome, hLower, hValue, hRound⟩ := exists_round_eq s hPos e
  have hRounds := roundsTo_shiftToTargetExponent hSome rfl hLower
  have hExponent := congrArg Prod.snd (shiftToTargetExponent_of_le rfl hLower)
  dsimp only at hExponent
  have hLow := hRounds.low
  rw [hRound, ← hValue, hRounds.lt_overflowBound_iff (carries_iff hSome rfl hLower)]
  rcases roundWithAccuracy_eq s rfl hExponent hRounds with ⟨hZero, hEq⟩ | ⟨hQuotient, hFits, hEq⟩ | ⟨hCarry, hEq⟩
  · rw [hEq]
    rw [hZero] at hRounds ⊢
    have hLeast := (hRounds.isStored (by decide)).full.resolve_right (by decide)
    exact iff_of_true (by cases s <;> rfl) (.inl (by omega))
  · rw [hEq, isFinite_repack_iff hQuotient (hRounds.isStored hFits)]
    omega
  · rw [hEq, isFinite_repack_iff _ ⟨by decide, by omega, .inr (Nat.le_refl _)⟩]
    omega

/-- What can be stored and is not below a value is not below what the value is rounded to. -/
theorem exactValue_repack_le {n : Nat} {d : Int} {v : ℚ} {u : UnpackedFloat} (hRounded : IsRounded .positive v u)
    (hStored : IsStored n d) (hTop : d ≤ 971) (hLe : v ≤ value n d) : exactValue (repack u) ≤ value n d := by
  cases hRounded with
  | zero hTiny => exact value_nonneg n d
  | finite q t hSome hResult hLower hUpper =>
      have hFront := hUpper n d hStored hLe
      have hFinite : ¬ 971 < t := by
        rcases hFront with hLess | ⟨rfl, -⟩
        · omega
        · omega
      unfold repack
      rw [unpack_pack_of_isStored _ hSome hResult, if_neg hFinite]
      exact hResult.value_le_of_storedLe hStored hFront

theorem normalize_natCast (m : Nat) (e : Int) :
    UnpackedFloat.normalize .binary64 m e .positive =
      if m = 0 then .zero .positive else UnpackedFloat.round .binary64 .positive m e := by
  unfold UnpackedFloat.normalize
  by_cases hZero : m = 0
  · rw [if_pos hZero, hZero]
    rfl
  · have hGreater : compare (m : Int) 0 = .gt := Int.compare_eq_gt.mpr (by omega)
    rw [if_neg hZero, hGreater]
    rfl

theorem isFinite_repack_normalize_iff (m : Nat) (e : Int) :
    (repack (UnpackedFloat.normalize .binary64 m e .positive)).isFinite = true ↔
      value m e < overflowBound := by
  rw [normalize_natCast]
  by_cases hZero : m = 0
  · have hNothing : value 0 e = 0 := by
      unfold value
      simp
    rw [if_pos hZero, hZero, hNothing]
    exact iff_of_true rfl ((two_zpow_pos 1023).trans overflowBound_between.1)
  · rw [if_neg hZero, isFinite_repack_round_iff _ (Nat.pos_of_ne_zero hZero)]

theorem exactValue_repack_normalize_le {m n : Nat} {e d : Int} (hStored : IsStored n d) (hTop : d ≤ 971)
    (hLe : value m e ≤ value n d) :
    exactValue (repack (UnpackedFloat.normalize .binary64 m e .positive)) ≤ value n d := by
  rw [normalize_natCast]
  by_cases hZero : m = 0
  · rw [if_pos hZero]
    exact value_nonneg n d
  · rw [if_neg hZero]
    exact exactValue_repack_le (isRounded_round .positive (Nat.pos_of_ne_zero hZero) e) hStored hTop hLe

/-! ## Exact sums and differences -/

theorem exists_add_eq {m n : Nat} {e d : Int} (hm : 0 < m) (hn : 0 < n) :
    ∃ (k : Nat) (t : Int), UnpackedFloat.add .binary64 (.finite .positive m e hm) (.finite .positive n d hn) =
        UnpackedFloat.normalize .binary64 k t .positive ∧ value k t = value m e + value n d := by
  refine ⟨m <<< (e - min e d).toNat + n <<< (d - min e d).toNat, min e d, rfl, ?_⟩
  rw [value_add, value_shiftLeft (Int.min_le_left e d), value_shiftLeft (Int.min_le_right e d)]

theorem exists_sub_eq {m n : Nat} {e d : Int} (hm : 0 < m) (hn : 0 < n) (hLe : value n d ≤ value m e) :
    ∃ (k : Nat) (t : Int), UnpackedFloat.sub .binary64 (.finite .positive m e hm) (.finite .positive n d hn) =
        UnpackedFloat.normalize .binary64 k t .positive ∧ value k t = value m e - value n d := by
  have hLong : value (m <<< (e - min e d).toNat) (min e d) = value m e := value_shiftLeft (Int.min_le_left e d)
  have hLess : value (n <<< (d - min e d).toNat) (min e d) = value n d := value_shiftLeft (Int.min_le_right e d)
  have hAligned : n <<< (d - min e d).toNat ≤ m <<< (e - min e d).toNat := by
    rwa [← value_le_iff (e := min e d), hLong, hLess]
  refine ⟨m <<< (e - min e d).toNat - n <<< (d - min e d).toNat, min e d, ?_, ?_⟩
  · rw [Nat.cast_sub hAligned]
    rfl
  · rw [eq_sub_iff_add_eq, ← hLess, ← value_add, Nat.sub_add_cancel hAligned, hLong]

/-! ## Numbers -/

/-- The exact value of a number; what is not finite counts for nothing. -/
def toRat (x : Float) : ℚ :=
  exactValue x.toModel.unpack

section Numbers

variable {x y : Float} {n : Nat} {d : Int}

/-- Numbers that are unpacked alike are the same. -/
theorem eq_of_unpack (hSame : x.toModel.unpack = y.toModel.unpack) : x = y := by
  obtain ⟨⟨bits, hBits⟩⟩ := x
  obtain ⟨⟨others, hOthers⟩⟩ := y
  have hVectors : bits.toBitVec = others.toBitVec := (unpack_inj_of_valid hBits hOthers).mp hSame
  obtain rfl := UInt64.toBitVec_inj.mp hVectors
  rfl

theorem unpack_inf : Float.inf.toModel.unpack = .infinity .positive := rfl

theorem unpack_of_nonneg (hNonneg : 0 ≤ x) :
    (∃ s, x.toModel.unpack = .zero s) ∨ (∃ m e hm, x.toModel.unpack = .finite .positive m e hm) ∨
      x = Float.inf := by
  have hUnpacked := zero_le_iff.mp hNonneg
  cases hx : x.toModel.unpack with
  | notANumber => simp [hx, IsNonneg, HasSign] at hUnpacked
  | infinity s =>
      obtain rfl : s = .positive := by simpa [hx, IsNonneg, HasSign] using hUnpacked
      exact .inr (.inr (eq_of_unpack (hx.trans unpack_inf.symm)))
  | zero s => exact .inl ⟨s, rfl⟩
  | finite s m e hm =>
      obtain rfl : s = .positive := by simpa [hx, IsNonneg, HasSign] using hUnpacked
      exact .inr (.inl ⟨m, e, hm, rfl⟩)

theorem isFinite_iff_ne_inf (hNonneg : 0 ≤ x) : x.isFinite = true ↔ x ≠ Float.inf := by
  change x.toModel.unpack.isFinite = true ↔ _
  constructor
  · rintro hFinite rfl
    rw [unpack_inf] at hFinite
    cases hFinite
  · intro hOther
    obtain ⟨s, hx⟩ | ⟨m, e, hm, hx⟩ | rfl := unpack_of_nonneg hNonneg
    · rw [hx]
      rfl
    · rw [hx]
      rfl
    · exact absurd rfl hOther

/-- Adding to nothing changes nothing. -/
theorem zero_add_of_pos {s : Sign} (hx : x.toModel.unpack = .zero s) (hFinite : y.isFinite = true) (hPos : 0 < y) :
    x + y = y := by
  obtain ⟨n, d, hn, hy⟩ := exists_finite_of_pos hFinite hPos
  refine eq_of_unpack ?_
  change repack (UnpackedFloat.add .binary64 x.toModel.unpack y.toModel.unpack) = _
  rw [hx, hy]
  change repack (.finite .positive n d hn) = _
  unfold repack
  rw [unpack_pack_of_isStored _ hn (isStored_of_unpack hy), if_neg (exponent_le_of_unpack hy).not_gt]

theorem toRat_of_zero {s : Sign} (hx : x.toModel.unpack = .zero s) : toRat x = 0 := by
  unfold toRat
  rw [hx]
  rfl

theorem toRat_lt_overflowBound (hFinite : x.isFinite = true) (hPos : 0 < x) : toRat x < overflowBound := by
  obtain ⟨m, e, hm, hx⟩ := exists_finite_of_pos hFinite hPos
  unfold toRat
  rw [hx]
  exact (isStored_of_unpack hx).value_lt_overflowBound (exponent_le_of_unpack hx)

/-- A sum of numbers that are not negative is finite exactly if the exact sum is below the bound. -/
theorem isFinite_add_iff (hx : x.isFinite = true) (hNonneg : 0 ≤ x) (hy : y.isFinite = true) (hPos : 0 < y) :
    (x + y).isFinite = true ↔ toRat x + toRat y < overflowBound := by
  obtain ⟨s, hZero⟩ | ⟨m, e, hm, hSome⟩ | rfl := unpack_of_nonneg hNonneg
  · rw [zero_add_of_pos hZero hy hPos, toRat_of_zero hZero, zero_add]
    exact iff_of_true hy (toRat_lt_overflowBound hy hPos)
  · obtain ⟨n, d, hn, hOther⟩ := exists_finite_of_pos hy hPos
    obtain ⟨k, t, hSum, hValue⟩ := exists_add_eq (e := e) (d := d) hm hn
    change (repack (UnpackedFloat.add .binary64 x.toModel.unpack y.toModel.unpack)).isFinite = true ↔ _
    unfold toRat
    rw [hSome, hOther, hSum, isFinite_repack_normalize_iff, hValue]
    rfl
  · exact absurd rfl ((isFinite_iff_ne_inf hNonneg).mp hx)

/-- What can be stored and is not below an exact sum is not below the rounded one. -/
theorem toRat_add_le (hx : x.isFinite = true) (hNonneg : 0 ≤ x) (hy : y.isFinite = true) (hPos : 0 < y)
    (hStored : IsStored n d) (hTop : d ≤ 971) (hLe : toRat x + toRat y ≤ value n d) :
    toRat (x + y) ≤ value n d := by
  obtain ⟨s, hZero⟩ | ⟨m, e, hm, hSome⟩ | rfl := unpack_of_nonneg hNonneg
  · rw [zero_add_of_pos hZero hy hPos]
    rwa [toRat_of_zero hZero, zero_add] at hLe
  · obtain ⟨q, r, hq, hOther⟩ := exists_finite_of_pos hy hPos
    obtain ⟨k, t, hSum, hValue⟩ := exists_add_eq (e := e) (d := r) hm hq
    change exactValue (repack (UnpackedFloat.add .binary64 x.toModel.unpack y.toModel.unpack)) ≤ _
    unfold toRat at hLe
    rw [hSome, hOther] at hLe ⊢
    rw [hSum]
    exact exactValue_repack_normalize_le hStored hTop (hValue.trans_le hLe)
  · exact absurd rfl ((isFinite_iff_ne_inf hNonneg).mp hx)

/-- Taking off what a finite number covers leaves a finite number that is not larger. -/
theorem isFinite_sub (hx : x.isFinite = true) (hy : y.isFinite = true) (hPos : 0 < y) (hLe : y ≤ x) :
    (x - y).isFinite = true ∧ toRat (x - y) ≤ toRat x := by
  have hPosLarger : 0 < x := by
    have hNumber := isNaN_of_isFinite hx
    refine (not_le_iff hNumber rfl).mp fun hBelow => ?_
    exact not_le_of_lt hPos (le_trans hLe hBelow)
  obtain ⟨m, e, hm, hSome⟩ := exists_finite_of_pos hx hPosLarger
  obtain ⟨n, d, hn, hOther⟩ := exists_finite_of_pos hy hPos
  have hStored := isStored_of_unpack hSome
  have hFront : StoredLe n d m e := by
    rw [le_iff_compare, hSome, hOther] at hLe
    exact isLE_then_iff.mp (by simpa [UnpackedFloat.compare] using hLe)
  have hValues := (isStored_of_unpack hOther).value_le_of_storedLe hStored hFront
  obtain ⟨k, t, hDifference, hValue⟩ := exists_sub_eq hm hn hValues
  have hLess : value k t ≤ value m e := by
    rw [hValue]
    exact sub_le_self _ (value_nonneg n d)
  change (repack (UnpackedFloat.sub .binary64 x.toModel.unpack y.toModel.unpack)).isFinite = true ∧
    exactValue (repack (UnpackedFloat.sub .binary64 x.toModel.unpack y.toModel.unpack)) ≤
      exactValue x.toModel.unpack
  rw [hSome, hOther, hDifference, isFinite_repack_normalize_iff]
  exact ⟨hLess.trans_lt (hStored.value_lt_overflowBound (exponent_le_of_unpack hSome)),
    exactValue_repack_normalize_le hStored (exponent_le_of_unpack hSome) hLess⟩

/-- Multiples of the largest power of two that a mantissa is stored under can be stored. -/
theorem exists_isStored_of_multiple {k : Nat} (hPos : 0 < k) (hFits : k < 2 ^ 53) :
    ∃ n d, IsStored n d ∧ d ≤ 971 ∧ value n d = value k 971 := by
  have hLog : k.log2 ≤ 52 := by
    have := (Nat.log2_lt hPos.ne').mpr hFits
    omega
  have hShift : (971 - (971 - ((52 - k.log2 : Nat) : Int))).toNat = 52 - k.log2 := by omega
  have hValue := value_mul_two_pow (m := k) (e := 971) (d := 971 - ((52 - k.log2 : Nat) : Int)) (by omega)
  rw [hShift] at hValue
  have hPower : 2 ^ (52 - k.log2) * 2 ^ k.log2 = 2 ^ 52 := by
    rw [← Nat.pow_add]
    congr 1
    omega
  refine ⟨_, _, ⟨?_, by omega, .inr ?_⟩, by omega, hValue⟩
  · have hHigh : 2 ^ (52 - k.log2) * 2 ^ (k.log2 + 1) = 2 ^ 53 := by
      rw [Nat.pow_succ, ← Nat.mul_assoc, hPower]
      rfl
    rw [← hHigh, Nat.mul_comm]
    exact Nat.mul_lt_mul_of_pos_left Nat.lt_log2_self (by positivity)
  · rw [← hPower, Nat.mul_comm k]
    exact Nat.mul_le_mul_left _ (Nat.log2_self_le hPos.ne')

/-- Below the bound on the sum of small amounts the rounding of the sum does not go beyond it. -/
theorem add_le_multiple {k : Nat} (hx : x.isFinite = true) (hNonneg : 0 ≤ x) (hy : y.isFinite = true)
    (hPos : 0 < y) (hSum : toRat x ≤ value k 971) (hSmall : toRat y ≤ value 1 971) (hFits : k + 1 < 2 ^ 53) :
    (x + y).isFinite = true ∧ toRat (x + y) ≤ value (k + 1) 971 := by
  obtain ⟨n, d, hStored, hTop, hValue⟩ := exists_isStored_of_multiple (Nat.succ_pos k) hFits
  have hLe : toRat x + toRat y ≤ value n d := by
    rw [hValue, Nat.succ_eq_add_one, value_add]
    exact add_le_add hSum hSmall
  refine ⟨(isFinite_add_iff hx hNonneg hy hPos).mpr (hLe.trans_lt (hStored.value_lt_overflowBound hTop)), ?_⟩
  exact (toRat_add_le hx hNonneg hy hPos hStored hTop hLe).trans_eq hValue

/-! ## The infinity -/

theorem unpack_of_isFinite (hFinite : y.isFinite = true) :
    (∃ s, y.toModel.unpack = .zero s) ∨ ∃ s m e hm, y.toModel.unpack = .finite s m e hm := by
  change y.toModel.unpack.isFinite = true at hFinite
  cases hy : y.toModel.unpack with
  | notANumber => rw [hy] at hFinite; cases hFinite
  | infinity s => rw [hy] at hFinite; cases hFinite
  | zero s => exact .inl ⟨s, rfl⟩
  | finite s m e hm => exact .inr ⟨s, m, e, hm, rfl⟩

theorem inf_add (hFinite : y.isFinite = true) : Float.inf + y = Float.inf := by
  refine eq_of_unpack ?_
  change repack (UnpackedFloat.add .binary64 Float.inf.toModel.unpack y.toModel.unpack) = _
  rw [unpack_inf]
  obtain ⟨s, hy⟩ | ⟨s, m, e, hm, hy⟩ := unpack_of_isFinite hFinite
  · rw [hy]
    exact unpack_infinity .positive
  · rw [hy]
    exact unpack_infinity .positive

theorem inf_sub (hFinite : y.isFinite = true) : Float.inf - y = Float.inf := by
  refine eq_of_unpack ?_
  change repack (UnpackedFloat.sub .binary64 Float.inf.toModel.unpack y.toModel.unpack) = _
  rw [unpack_inf]
  obtain ⟨s, hy⟩ | ⟨s, m, e, hm, hy⟩ := unpack_of_isFinite hFinite
  · rw [hy]
    exact unpack_infinity .positive
  · rw [hy]
    exact unpack_infinity .positive

theorem le_inf (hFinite : y.isFinite = true) : y ≤ Float.inf := by
  rw [le_iff_compare, unpack_inf]
  obtain ⟨s, hy⟩ | ⟨s, m, e, hm, hy⟩ := unpack_of_isFinite hFinite
  · rw [hy]
    rfl
  · rw [hy]
    rfl

end Numbers

end CardLedger.Binary64
