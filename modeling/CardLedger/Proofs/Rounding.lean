import CardLedger.Proofs.Binary64

/-!
# Rounding of binary64 numbers

What the bit model of `Float` makes of an exact positive value: a mantissa of at most 53 bits under an
exponent, rounded to the nearest, and packed into 64 bits. Two things are proved of it. Rounding is monotone
beside whatever can be stored: a stored number on one side of the value is on that side of the result. And
packing leaves alone what can be stored, unless it overflows.

The value of a mantissa `m` under an exponent `e` is the rational number `m * 2 ^ e`. Stored numbers are
ordered by exponent and then by mantissa, since a mantissa is full unless its exponent is the least one.
-/

namespace CardLedger.Binary64

open Float.Model Float.Model.UnpackedFloat

/-! ## Stored mantissas -/

/-- A mantissa and an exponent as they are stored: the mantissa is full, or the exponent the least one. -/
structure IsStored (m : Nat) (e : Int) : Prop where
  fits : m < 2 ^ 53
  low : -1074 ≤ e
  full : e = -1074 ∨ 2 ^ 52 ≤ m

/-- One stored pair is in front of another. -/
def StoredLe (m : Nat) (e : Int) (n : Nat) (d : Int) : Prop :=
  e < d ∨ e = d ∧ m ≤ n

/-- The value of a mantissa under an exponent. -/
def value (m : Nat) (e : Int) : ℚ :=
  m * 2 ^ e

theorem two_zpow_pos (e : Int) : (0 : ℚ) < 2 ^ e :=
  zpow_pos (by norm_num) e

theorem two_zpow_lt_iff {e d : Int} : (2 : ℚ) ^ e < 2 ^ d ↔ e < d :=
  zpow_lt_zpow_iff_right₀ (by norm_num)

theorem value_two_pow (n : Nat) (e : Int) : value (2 ^ n) e = 2 ^ (n + e) := by
  unfold value
  rw [zpow_add₀ (by norm_num), zpow_natCast]
  push_cast
  rfl

theorem value_le_iff {m n : Nat} {e : Int} : value m e ≤ value n e ↔ m ≤ n := by
  unfold value
  rw [mul_le_mul_iff_left₀ (two_zpow_pos e), Nat.cast_le]

theorem value_lt_iff {m n : Nat} {e : Int} : value m e < value n e ↔ m < n := by
  rw [← not_le, value_le_iff, not_le]

/-- Under a lower exponent the mantissa is that many places longer. -/
theorem value_shiftLeft {m : Nat} {e d : Int} (hLower : d ≤ e) :
    value (m <<< (e - d).toNat) d = value m e := by
  have hPower : (2 : ℚ) ^ e = 2 ^ (e - d).toNat * 2 ^ d := by
    rw [← zpow_natCast, ← zpow_add₀ (by norm_num)]
    congr 1
    omega
  unfold value
  rw [Nat.shiftLeft_eq, hPower]
  push_cast
  ring

theorem value_mul_two_pow {m : Nat} {e d : Int} (hLower : d ≤ e) :
    value (m * 2 ^ (e - d).toNat) d = value m e := by
  rw [← Nat.shiftLeft_eq, value_shiftLeft hLower]

theorem IsStored.value_lt {m : Nat} {e : Int} (hStored : IsStored m e) : value m e < 2 ^ (53 + e) := by
  have hTop := value_lt_iff (e := e).mpr hStored.fits
  rwa [value_two_pow] at hTop

theorem IsStored.le_value {m : Nat} {e : Int} (hStored : IsStored m e) (hAbove : -1074 < e) :
    2 ^ (52 + e) ≤ value m e := by
  have hFull := value_le_iff (e := e).mpr (hStored.full.resolve_left (by omega))
  rwa [value_two_pow] at hFull

/-! ## The rounded mantissa -/

/-- A mantissa that a positive value is rounded to under an exponent: the exponent fits the value, and no
whole number lies between the two. -/
structure RoundsTo (v : ℚ) (q : Nat) (t : Int) : Prop where
  low : -1074 ≤ t
  size : v < 2 ^ (53 + t)
  full : t = -1074 ∨ 2 ^ (52 + t) ≤ v
  lower : ∀ m : Nat, value m t ≤ v → m ≤ q
  upper : ∀ m : Nat, v ≤ value m t → q ≤ m

namespace RoundsTo

variable {v : ℚ} {q m : Nat} {t e : Int}

theorem le_top (hRounds : RoundsTo v q t) : q ≤ 2 ^ 53 := by
  refine hRounds.upper _ ?_
  rw [value_two_pow]
  exact hRounds.size.le

theorem isStored (hRounds : RoundsTo v q t) (hFits : q < 2 ^ 53) : IsStored q t where
  fits := hFits
  low := hRounds.low
  full := by
    refine hRounds.full.imp_right fun hFull => hRounds.lower _ ?_
    rw [value_two_pow]
    exact hFull

/-- What is stored and not above a value has no exponent above that of the value. -/
theorem exponent_le (hRounds : RoundsTo v q t) (hStored : IsStored m e) (hLe : value m e ≤ v) :
    e ≤ t := by
  by_contra hAbove
  have hFull := hStored.le_value (by have := hRounds.low; omega)
  have hBound := two_zpow_lt_iff.mp ((hFull.trans hLe).trans_lt hRounds.size)
  omega

theorem le_exponent (hRounds : RoundsTo v q t) (hStored : IsStored m e) (hLe : v ≤ value m e) :
    t ≤ e := by
  by_contra hBelow
  have hFull := hRounds.full.resolve_left (by have := hStored.low; omega)
  have hBound := two_zpow_lt_iff.mp (hFull.trans_lt (hLe.trans_lt hStored.value_lt))
  omega

/-- What is stored and not above a value stays in front of the rounded value. -/
theorem storedLe (hRounds : RoundsTo v q t) (hStored : IsStored m e) (hLe : value m e ≤ v) :
    StoredLe m e q t := by
  rcases (hRounds.exponent_le hStored hLe).lt_or_eq with hLess | rfl
  · exact .inl hLess
  · exact .inr ⟨rfl, hRounds.lower m hLe⟩

theorem le_stored (hRounds : RoundsTo v q t) (hStored : IsStored m e) (hLe : v ≤ value m e) :
    StoredLe q t m e := by
  rcases (hRounds.le_exponent hStored hLe).lt_or_eq with hLess | rfl
  · exact .inl hLess
  · exact .inr ⟨rfl, hRounds.upper m hLe⟩

end RoundsTo

/-! ## Rounding -/

theorem shiftRight_succ (em : ExtendedMantissa) (n : Nat) :
    em >>> (n + 1) = (em >>> n).shiftRightOne := rfl

/-- Bits that are shifted out leave the quotient, and no trace where they are all zero. -/
theorem shiftRight_exact (m n : Nat) :
    ((⟨m, false, false⟩ : ExtendedMantissa) >>> n).mantissa = m / 2 ^ n ∧
      (2 ^ n ∣ m → ((⟨m, false, false⟩ : ExtendedMantissa) >>> n) = ⟨m / 2 ^ n, false, false⟩) := by
  induction n with
  | zero => simp [HShiftRight.hShiftRight, Nat.repeat]
  | succ n ih =>
      obtain ⟨hQuotient, hClean⟩ := ih
      rw [shiftRight_succ]
      refine ⟨?_, fun hDivides => ?_⟩
      · unfold ExtendedMantissa.shiftRightOne
        dsimp only
        rw [hQuotient, Nat.div_div_eq_div_mul, Nat.pow_succ]
      · have hEven : m / 2 ^ n % 2 = 0 := by
          obtain ⟨k, rfl⟩ := hDivides
          rw [Nat.pow_succ, Nat.mul_assoc, Nat.mul_div_cancel_left _ (by positivity)]
          exact Nat.mul_mod_right 2 k
        rw [hClean ((Nat.pow_dvd_pow 2 (Nat.le_succ n)).trans hDivides)]
        simp [ExtendedMantissa.shiftRightOne, hEven, Nat.div_div_eq_div_mul, Nat.pow_succ]

theorem roundedMantissa_bounds (em : ExtendedMantissa) :
    em.mantissa ≤ em.roundedMantissa ∧ em.roundedMantissa ≤ em.mantissa + 1 := by
  obtain ⟨m, roundBit, stickyBit⟩ := em
  cases roundBit <;> cases stickyBit <;>
    simp [ExtendedMantissa.roundedMantissa, ExtendedMantissa.accuracy, Accuracy.roundToNearestEven]
  omega

/-- The rounded quotient is between all whole numbers below and all whole numbers above the quotient. -/
theorem roundedMantissa_between (m n : Nat) :
    (∀ k, k * 2 ^ n ≤ m → k ≤ ((⟨m, false, false⟩ : ExtendedMantissa) >>> n).roundedMantissa) ∧
      ∀ k, m ≤ k * 2 ^ n → ((⟨m, false, false⟩ : ExtendedMantissa) >>> n).roundedMantissa ≤ k := by
  obtain ⟨hQuotient, hClean⟩ := shiftRight_exact m n
  obtain ⟨hLow, hHigh⟩ := roundedMantissa_bounds ((⟨m, false, false⟩ : ExtendedMantissa) >>> n)
  rw [hQuotient] at hLow hHigh
  have hPos : 0 < 2 ^ n := by positivity
  refine ⟨fun k hBelow => ((Nat.le_div_iff_mul_le hPos).mpr hBelow).trans hLow, fun k hAbove => ?_⟩
  rcases (Nat.div_le_of_le_mul ((Nat.mul_comm k _) ▸ hAbove)).lt_or_eq with hLess | hSame
  · omega
  · -- the quotient is `k` already, so that nothing was cut off
    have hExact : m = k * 2 ^ n := by
      have hBack := Nat.div_mul_le_self m (2 ^ n)
      rw [hSame] at hBack
      omega
    rw [hClean ⟨k, by rw [hExact, Nat.mul_comm]⟩, hSame]
    exact Nat.le_refl k

/-- The exponent that a positive value is rounded under. -/
theorem targetExponent_eq (m : Nat) (e : Int) :
    Format.binary64.targetExponent (totalExponent m e) = max (m.log2 + e - 52) (-1074) := by
  have hMin : Format.binary64.minExponent = -1074 := by decide
  have hBits : (Format.binary64.mantissaBits : Int) = 53 := by decide
  unfold Format.targetExponent totalExponent
  rw [hMin, hBits]
  omega

theorem value_bounds {m : Nat} (hPos : 0 < m) (e : Int) :
    2 ^ (m.log2 + e) ≤ value m e ∧ value m e < 2 ^ (m.log2 + 1 + e) := by
  have hLow := value_le_iff (e := e).mpr (Nat.log2_self_le hPos.ne')
  have hHigh := value_lt_iff (e := e).mpr (Nat.lt_log2_self (n := m))
  rw [value_two_pow] at hLow hHigh
  push_cast at hHigh
  exact ⟨hLow, hHigh⟩

/-- Up to the exponent that fits its value, the places of a mantissa are shifted out. -/
theorem shiftToTargetExponent_of_le {m : Nat} {e t : Int}
    (hTarget : t = Format.binary64.targetExponent (totalExponent m e)) (hLower : e ≤ t) :
    shiftToTargetExponent .binary64 m e .exact =
      ((⟨m, false, false⟩ : ExtendedMantissa) >>> (t - e).toNat, t) := by
  unfold shiftToTargetExponent shiftToExponent
  rw [← hTarget]
  exact Prod.ext rfl (by dsimp only; omega)

/-- Shifted to the exponent that fits its value, a mantissa is rounded. -/
theorem roundsTo_shiftToTargetExponent {m : Nat} {e t : Int} (hPos : 0 < m)
    (hTarget : t = Format.binary64.targetExponent (totalExponent m e)) (hLower : e ≤ t) :
    RoundsTo (value m e) (shiftToTargetExponent .binary64 m e .exact).1.roundedMantissa t := by
  have hMax := hTarget.trans (targetExponent_eq m e)
  obtain ⟨hLow, hHigh⟩ := value_bounds hPos e
  obtain ⟨hBelow, hAbove⟩ := roundedMantissa_between m (t - e).toNat
  rw [shiftToTargetExponent_of_le hTarget hLower]
  exact
    { low := by omega
      size := hHigh.trans_le (zpow_le_zpow_right₀ (by norm_num) (by omega))
      full := by
        by_cases hLeast : t = -1074
        · exact .inl hLeast
        · exact .inr ((zpow_le_zpow_right₀ (by norm_num) (by omega)).trans hLow)
      lower := fun k hLe => hBelow k (value_le_iff.mp (value_mul_two_pow (m := k) hLower ▸ hLe))
      upper := fun k hLe => hAbove k (value_le_iff.mp (value_mul_two_pow (m := k) hLower ▸ hLe)) }

/-- What is stored already is not shifted any more. -/
theorem shiftToTargetExponent_of_isStored {m : Nat} {e : Int} (hFits : m < 2 ^ 53) (hLow : -1074 ≤ e) :
    shiftToTargetExponent .binary64 m e .exact = (⟨m, false, false⟩, e) := by
  have hLog : m.log2 ≤ 52 := by
    rcases Nat.eq_zero_or_pos m with rfl | hPos
    · decide
    · have := (Nat.log2_lt hPos.ne').mpr hFits
      omega
  have hShift : (Format.binary64.targetExponent (totalExponent m e) - e).toNat = 0 := by
    rw [targetExponent_eq]
    omega
  unfold shiftToTargetExponent shiftToExponent
  dsimp only
  rw [hShift]
  exact Prod.ext rfl (Int.add_zero e)

theorem shiftToTargetExponent_of_carry {e : Int} (hLow : -1074 ≤ e) :
    shiftToTargetExponent .binary64 (2 ^ 53) e .exact = (⟨2 ^ 52, false, false⟩, e + 1) := by
  have hShift : (Format.binary64.targetExponent (totalExponent (2 ^ 53) e) - e).toNat = 1 := by
    rw [targetExponent_eq, Nat.log2_two_pow]
    omega
  unfold shiftToTargetExponent shiftToExponent
  dsimp only
  rw [hShift]
  rfl

/-- An unpacked number of a sign that a positive value is rounded to: it is stored, and whatever is stored
and lies on one side of the value lies on this side of the number. -/
inductive IsRounded (s : Sign) (v : ℚ) : UnpackedFloat → Prop where
  | zero (hTiny : ∀ m e, IsStored m e → 0 < m → ¬ value m e ≤ v) : IsRounded s v (.zero s)
  | finite (q : Nat) (t : Int) (hPos : 0 < q) (hStored : IsStored q t)
      (hLower : ∀ m e, IsStored m e → value m e ≤ v → StoredLe m e q t)
      (hUpper : ∀ m e, IsStored m e → v ≤ value m e → StoredLe q t m e) :
      IsRounded s v (.finite s q t hPos)

/-- The mantissa that a value is rounded to is stored as it is, unless it has become one place longer. -/
theorem roundWithAccuracy_eq (s : Sign) {m q : Nat} {e t : Int}
    (hq : (shiftToTargetExponent .binary64 m e .exact).1.roundedMantissa = q)
    (hExponent : (shiftToTargetExponent .binary64 m e .exact).2 = t) (hRounds : RoundsTo (value m e) q t) :
    (q = 0 ∧ roundWithAccuracy .binary64 s m e .exact = .zero s) ∨
      (∃ hSome : 0 < q, q < 2 ^ 53 ∧ roundWithAccuracy .binary64 s m e .exact = .finite s q t hSome) ∨
      q = 2 ^ 53 ∧ roundWithAccuracy .binary64 s m e .exact = .finite s (2 ^ 52) (t + 1) (by decide) := by
  unfold roundWithAccuracy
  dsimp only
  rw [hq, hExponent]
  rcases hRounds.le_top.lt_or_eq with hFits | rfl
  · rw [shiftToTargetExponent_of_isStored hFits hRounds.low]
    dsimp only
    by_cases hZero : q = 0
    · exact .inl ⟨hZero, dif_pos hZero⟩
    · exact .inr (.inl ⟨Nat.pos_of_ne_zero hZero, hFits, dif_neg hZero⟩)
  · rw [shiftToTargetExponent_of_carry hRounds.low]
    exact .inr (.inr ⟨rfl, rfl⟩)

theorem isRounded_roundWithAccuracy (s : Sign) {m : Nat} {e : Int} (hPos : 0 < m)
    (hLower : e ≤ Format.binary64.targetExponent (totalExponent m e)) :
    IsRounded s (value m e) (roundWithAccuracy .binary64 s m e .exact) := by
  have hRounds := roundsTo_shiftToTargetExponent hPos rfl hLower
  have hExponent := congrArg Prod.snd (shiftToTargetExponent_of_le rfl hLower)
  dsimp only at hExponent
  rcases roundWithAccuracy_eq s rfl hExponent hRounds with ⟨hZero, hEq⟩ | ⟨hSome, hFits, hEq⟩ | ⟨hCarry, hEq⟩
  · rw [hEq]
    rw [hZero] at hRounds
    refine .zero fun n d hStored hSome hLe => ?_
    -- only under the least exponent a full mantissa is not asked for
    have hLeast := (hRounds.isStored (by decide)).full.resolve_right (by decide)
    have hLow := hStored.low
    rcases hRounds.storedLe hStored hLe with hLess | ⟨-, hBelow⟩
    · omega
    · omega
  · rw [hEq]
    exact .finite _ _ _ (hRounds.isStored hFits) (fun n d => hRounds.storedLe) (fun n d => hRounds.le_stored)
  · rw [hEq]
    rw [hCarry] at hRounds
    have hLow := hRounds.low
    refine .finite (2 ^ 52) _ _ ⟨by decide, by omega, .inr (Nat.le_refl _)⟩ ?_ ?_
    · intro n d hStored hLe
      have hExponents := hRounds.exponent_le hStored hLe
      exact .inl (by omega)
    · intro n d hStored hLe
      have hFits := hStored.fits
      have hFull := hStored.full
      rcases hRounds.le_stored hStored hLe with hLess | ⟨-, hAbove⟩
      · by_cases hNext : Format.binary64.targetExponent (totalExponent m e) + 1 = d
        · exact .inr ⟨hNext, hFull.resolve_left (by omega)⟩
        · exact .inl (by omega)
      · omega

theorem log2_shiftLeft {m : Nat} (hPos : 0 < m) (n : Nat) : (m <<< n).log2 = m.log2 + n := by
  rw [Nat.log2_eq_iff (by rw [Nat.shiftLeft_eq]; positivity), Nat.shiftLeft_eq]
  have hLow := Nat.log2_self_le hPos.ne'
  have hHigh := Nat.lt_log2_self (n := m)
  rw [Nat.pow_add, Nat.add_right_comm, Nat.pow_add 2 (m.log2 + 1)]
  exact ⟨Nat.mul_le_mul_right _ hLow, Nat.mul_lt_mul_of_pos_right hHigh (by positivity)⟩

/-- What is rounded is written first under an exponent that is not above the one that fits. -/
theorem exists_round_eq (s : Sign) {m : Nat} (hPos : 0 < m) (e : Int) :
    ∃ n d, 0 < n ∧ d ≤ Format.binary64.targetExponent (totalExponent n d) ∧ value n d = value m e ∧
      UnpackedFloat.round .binary64 s m e = roundWithAccuracy .binary64 s n d .exact := by
  obtain ⟨t, hTarget⟩ : ∃ t, t = Format.binary64.targetExponent (totalExponent m e) := ⟨_, rfl⟩
  have hPosShifted : 0 < m <<< (e - t).toNat := by
    rw [Nat.shiftLeft_eq]
    positivity
  have hValue : value (m <<< (e - t).toNat) (e - ((e - t).toNat : Int)) = value m e := by
    have hSame : e - (e - ((e - t).toNat : Int)) = (e - t).toNat := by omega
    have hShift := value_shiftLeft (m := m) (e := e) (d := e - ((e - t).toNat : Int)) (by omega)
    rwa [hSame, Int.toNat_natCast] at hShift
  have hSameTarget : Format.binary64.targetExponent
      (totalExponent (m <<< (e - t).toNat) (e - ((e - t).toNat : Int))) = t := by
    rw [hTarget, targetExponent_eq, targetExponent_eq, log2_shiftLeft hPos]
    omega
  refine ⟨_, _, hPosShifted, by rw [hSameTarget]; omega, hValue, ?_⟩
  unfold UnpackedFloat.round decreaseExponent
  dsimp only
  rw [← hTarget]

theorem isRounded_round (s : Sign) {m : Nat} (hPos : 0 < m) (e : Int) :
    IsRounded s (value m e) (UnpackedFloat.round .binary64 s m e) := by
  obtain ⟨n, d, hSome, hLower, hValue, hRound⟩ := exists_round_eq s hPos e
  rw [hRound, ← hValue]
  exact isRounded_roundWithAccuracy s hSome hLower

/-! ## Packing -/

theorem unpack_infinity (s : Sign) :
    UnpackedFloat.unpack .binary64 (packComponents .binary64 s (-1#_) 0#_) = .infinity s := by
  unfold UnpackedFloat.unpack
  simp only [unpackMantissa_packComponents, unpackExponent_packComponents, sign_packComponents, if_true]

/-- A full mantissa is packed without its first bit, which is put back. -/
theorem unpack_full (s : Sign) {m biased : Nat} (hFull : 2 ^ 52 ≤ m) (hFits : m < 2 ^ 53)
    (hBiased : 0 < biased ∧ biased < 2047) :
    UnpackedFloat.unpack .binary64 (packComponents .binary64 s (BitVec.ofNat 11 biased) (BitVec.ofNat 52 m)) =
      .finite s m (biased - 1075) (by omega) := by
  have hBits : (BitVec.ofNat 11 biased).toNat = biased := by
    rw [BitVec.toNat_ofNat, Nat.mod_eq_of_lt (by omega)]
  have hNotTop : BitVec.ofNat 11 biased ≠ -1#11 := by
    intro hTop
    have := congrArg BitVec.toNat hTop
    rw [hBits] at this
    change biased = 2047 at this
    omega
  have hNotZero : BitVec.ofNat 11 biased ≠ 0#11 := by
    intro hZero
    have := congrArg BitVec.toNat hZero
    rw [hBits] at this
    change biased = 0 at this
    omega
  have hMantissa : (1#1 ++ BitVec.ofNat 52 m).toNat = m := by
    have hRest : (BitVec.ofNat 52 m).toNat < 2 ^ 52 := (BitVec.ofNat 52 m).isLt
    rw [BitVec.toNat_append, ← Nat.shiftLeft_add_eq_or_of_lt hRest, BitVec.toNat_ofNat, BitVec.toNat_ofNat]
    omega
  have hBias : (Format.binary64.exponentBias : Int) + (52 : Nat) = 1075 := by decide
  unfold UnpackedFloat.unpack
  simp only [unpackMantissa_packComponents, unpackExponent_packComponents, sign_packComponents]
  rw [if_neg hNotTop, if_neg hNotZero]
  simp only [finite.injEq]
  exact ⟨trivial, hMantissa, by rw [hBits, hBias]⟩

/-- Under the least exponent the first bit need not be set. -/
theorem unpack_least (s : Sign) {m : Nat} (hPos : 0 < m) (hShort : m < 2 ^ 52) :
    UnpackedFloat.unpack .binary64 (packComponents .binary64 s (0#11) (BitVec.ofNat 52 m)) =
      .finite s m (-1074) hPos := by
  have hMantissa : (BitVec.ofNat 52 m).toNat = m := by
    rw [BitVec.toNat_ofNat, Nat.mod_eq_of_lt hShort]
  have hNotZero : BitVec.ofNat 52 m ≠ 0#52 := by
    intro hZero
    have := congrArg BitVec.toNat hZero
    rw [hMantissa] at this
    change m = 0 at this
    omega
  unfold UnpackedFloat.unpack
  simp only [unpackMantissa_packComponents, unpackExponent_packComponents, sign_packComponents]
  rw [if_neg (by decide), if_pos trivial, dif_neg hNotZero]
  simp only [finite.injEq]
  exact ⟨trivial, hMantissa, by decide⟩

/-- Packing and unpacking leaves alone what is stored, unless it overflows. -/
theorem unpack_pack_of_isStored (s : Sign) {m : Nat} {e : Int} (hPos : 0 < m) (hStored : IsStored m e) :
    UnpackedFloat.unpack .binary64 (UnpackedFloat.pack .binary64 (.finite s m e hPos)) =
      if 971 < e then .infinity s else .finite s m e hPos := by
  have hBiased : (e + Format.binary64.exponentBias + (52 : Nat)).toNat = (e + 1075).toNat := by
    have hBias : (Format.binary64.exponentBias : Int) = 1023 := by decide
    omega
  have hLow := hStored.low
  unfold UnpackedFloat.pack
  dsimp only
  rw [hBiased]
  by_cases hOver : 971 < e
  · rw [if_pos hOver, if_pos (by change 2048 ≤ _; omega)]
    exact unpack_infinity s
  · rw [if_neg hOver, if_neg (by change ¬ 2048 ≤ _; omega)]
    by_cases hFull : 2 ^ 52 ≤ m
    · have hLog : m.log2 = 52 := (Nat.log2_eq_iff hPos.ne').mpr ⟨hFull, hStored.fits⟩
      rw [if_pos (by rw [hLog]; rfl)]
      refine (unpack_full s hFull hStored.fits (by omega)).trans ?_
      simp only [finite.injEq]
      exact ⟨trivial, trivial, by omega⟩
    · have hLog : m.log2 < 52 := (Nat.log2_lt hPos.ne').mpr (by omega)
      obtain rfl : e = -1074 := hStored.full.resolve_right hFull
      rw [if_neg (by change ¬ m.log2 + 1 = 53; omega)]
      exact unpack_least s hPos (by omega)

end CardLedger.Binary64
