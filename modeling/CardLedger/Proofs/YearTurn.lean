import CardLedger.Proofs.TimestampOrder

/-!
# Timestamps at the turn of a year

Years outside of the four digits are written with a sign, and in as many digits as they need. So where
such a year turns, what is stored of it and what is stored of the next one may stand the other way round:

* from 9999 to 10000 a sign comes in, and from 99999 to 100000 one more digit;
* before the year 0 the later year is the smaller number. Its text comes first, unless it is shorter by a
  digit, or the sign has gone.

Which turns keep the order is said by `Date.TurnKeepsOrder`; `Instant.storedBefore_iff_of_turn` says that
for instants on both sides of a turn nothing else matters.
-/

namespace CardLedger

/-! ## The digits of a year -/

namespace Number

variable {n : Nat}

/-- How many digits a year is written in. -/
def yearWidth (n : Nat) : Nat :=
  if n < 10000 then 4 else if n < 100000 then 5 else 6

theorem lt_pow_yearWidth (hFits : n < 1000000) : n < 10 ^ yearWidth n := by
  unfold yearWidth
  split_ifs <;> omega

theorem toList_padded_year (hFits : n < 1000000) : (padded 4 n).toList = fixedDigits (yearWidth n) n := by
  unfold yearWidth
  split_ifs with hFour hFive
  · exact toList_padded hFour
  · rw [padded_of_wide (by omega)]
    exact toList_padded hFive
  · rw [padded_of_wide (by omega), padded_of_wide (by omega)]
    exact toList_padded hFits

/-- In columns of one width the next number is the greater text, whatever comes behind. -/
theorem padded_append_lt_succ (hFits : n + 1 < 1000000) (hColumn : n ≠ 9999 ∧ n ≠ 99999)
    (x y : List Char) : (padded 4 n).toList ++ x < (padded 4 (n + 1)).toList ++ y := by
  have hWidth : yearWidth n = yearWidth (n + 1) := by
    unfold yearWidth
    split_ifs <;> omega
  rw [toList_padded_year (by omega), toList_padded_year hFits, hWidth]
  exact fixedDigits_append_lt (lt_pow_yearWidth hFits) (.inl (Nat.lt_succ_self n))

/-- Where a digit comes in, nines stand against a one. -/
theorem padded_succ_append_lt (hColumn : n = 9999 ∨ n = 99999) (x y : List Char) :
    (padded 4 (n + 1)).toList ++ x < (padded 4 n).toList ++ y := by
  rcases hColumn with rfl | rfl
  all_goals
    rw [toList_padded_year (by decide), toList_padded_year (by decide)]
    exact List.cons_lt_cons_iff.mpr (.inl (by decide))

end Number

/-! ## The years on both sides of a turn -/

namespace Date

open Number

variable {year : Int}

/-- Whether timestamps of a year are stored before those of the year that follows. -/
def TurnKeepsOrder (year : Int) : Prop :=
  (-1 ≤ year ∧ year ≠ 9999 ∧ year ≠ 99999) ∨ year = -10000 ∨ year = -100000

instance : Decidable (TurnKeepsOrder year) :=
  inferInstanceAs (Decidable (_ ∨ _ ∨ _))

theorem toList_yearText_of_written (hYear : 0 ≤ year ∧ year ≤ 9999) :
    (yearText year).toList = (padded 4 year.toNat).toList := by
  rw [yearText, if_pos hYear]

theorem toList_yearText_of_late (hLate : 10000 ≤ year) :
    (yearText year).toList = '+' :: (padded 4 year.toNat).toList := by
  rw [yearText, if_neg (by omega), if_pos (by omega), String.toList_append]
  rfl

theorem toList_yearText_of_early (hEarly : year < 0) :
    (yearText year).toList = '-' :: (padded 4 (-year).toNat).toList := by
  rw [yearText, if_neg (by omega), if_neg (by omega), String.toList_append]
  rfl

theorem yearText_lt_of_turn (hFits : -1000000 < year ∧ year + 1 < 1000000)
    (hKeeps : TurnKeepsOrder year) (x y : List Char) :
    (yearText year).toList ++ x < (yearText (year + 1)).toList ++ y := by
  obtain ⟨hFrom, hTo⟩ := hFits
  rcases hKeeps with ⟨hSince, hFour, hFive⟩ | hShorter
  · rcases lt_or_ge year 0 with hBefore | hAfter
    · -- the year before the year 0 is the last one with a minus
      obtain rfl : year = -1 := by omega
      rw [toList_yearText_of_early (by decide), toList_yearText_of_written (by decide),
        toList_padded_year (n := (-1 + 1 : Int).toNat) (by decide)]
      exact lt_fixedDigits_append (show '-' < '0' by decide) 3 _ _ y
    · have hNext : (year + 1).toNat = year.toNat + 1 := by omega
      have hDigits := padded_append_lt_succ (n := year.toNat) (by omega) (by omega) x y
      rcases lt_or_ge year 9999 with hWritten | hLate
      · rwa [toList_yearText_of_written (by omega), toList_yearText_of_written (by omega), hNext]
      · rw [toList_yearText_of_late (by omega), toList_yearText_of_late (by omega), hNext]
        exact cons_lt_cons_of_lt '+' hDigits
  · -- the later year has lost a digit
    have hNext : (-year).toNat = (-(year + 1)).toNat + 1 := by omega
    rw [toList_yearText_of_early (by omega), toList_yearText_of_early (by omega), hNext]
    exact cons_lt_cons_of_lt '-' (padded_succ_append_lt (by omega) x y)

theorem yearText_succ_lt_of_turn (hFits : -1000000 < year ∧ year + 1 < 1000000)
    (hTurned : ¬ TurnKeepsOrder year) (x y : List Char) :
    (yearText (year + 1)).toList ++ x < (yearText year).toList ++ y := by
  obtain ⟨hFrom, hTo⟩ := hFits
  unfold TurnKeepsOrder at hTurned
  rcases lt_or_ge year 0 with hBefore | hAfter
  · -- behind the minus the later year is the smaller number
    have hNext : (-year).toNat = (-(year + 1)).toNat + 1 := by omega
    rw [toList_yearText_of_early (by omega), toList_yearText_of_early (by omega), hNext]
    exact cons_lt_cons_of_lt '-' (padded_append_lt_succ (by omega) (by omega) x y)
  · have hDigits : year = 9999 ∨ year = 99999 := by omega
    rcases hDigits with rfl | rfl
    · -- the sign comes in
      rw [toList_yearText_of_late (by decide), toList_yearText_of_written (by decide),
        toList_padded_year (n := Int.toNat 9999) (by decide)]
      exact lt_fixedDigits_append (show '+' < '0' by decide) 3 _ _ y
    · rw [toList_yearText_of_late (by decide), toList_yearText_of_late (by decide)]
      exact cons_lt_cons_of_lt '+' (padded_succ_append_lt (.inr rfl) x y)

end Date

/-! ## Instants on both sides of a turn -/

namespace Instant

variable {a b : Instant}

theorem year_bounds (i : Instant) : -262143 ≤ i.date.year ∧ i.date.year ≤ 262142 := by
  obtain ⟨hFirst, hLast⟩ := i.inCalendar
  have hStart : Date.dayNumber ⟨-262143, 1, 1⟩ = -96465292 := by decide
  have hStop : Date.dayNumber ⟨262143, 1, 1⟩ = 95026237 := by decide
  have hFrom := Date.dayNumber_lt_newYear_iff i.isValid_date (-262143)
  have hTo := Date.dayNumber_lt_newYear_iff i.isValid_date 262143
  rw [dayNumber_date] at hFrom hTo
  unfold firstSecond at hFirst
  unfold lastSecond at hLast
  omega

/-- For instants of two years that follow each other the turn decides how they are stored. -/
theorem storedBefore_iff_of_turn (hTurn : b.date.year = a.date.year + 1) :
    a.storedBefore b = true ↔ Date.TurnKeepsOrder a.date.year := by
  have hBounds := a.year_bounds
  unfold storedBefore
  rw [decide_eq_true_iff, String.lt_iff_toList_lt, toList_stored, toList_stored, hTurn]
  by_cases hKeeps : Date.TurnKeepsOrder a.date.year
  · exact iff_of_true (Date.yearText_lt_of_turn (by omega) hKeeps _ _) hKeeps
  · have hLater := Date.yearText_succ_lt_of_turn (by omega) hKeeps b.writtenDay a.writtenDay
    exact iff_of_false (lt_asymm hLater) hKeeps

end Instant

end CardLedger
