import CardLedger.Proofs.CivilDate
import CardLedger.Proofs.Digits
import CardLedger.Store.Basic

/-!
# The order of stored timestamps

The store compares timestamps character by character. In the years of four digits this is the order of
the instants, leap seconds and fractions of any length included (`storedBefore_iff`), and so it is
within any one year (`storedBefore_iff_of_year`); a year outside of these is written with a sign and
comes before all of them (`storedBefore_of_signed`).
-/

namespace CardLedger.Instant

open Number

/-! ## Fractions of a second -/

/-- The zone that stored timestamps end in. -/
def zone : List Char :=
  "+00:00".toList

/-- Nanoseconds below a microsecond and the zone behind them, as they are written. -/
def nanosTail (nanos : Nat) : List Char :=
  if nanos = 0 then zone else fixedDigits 3 nanos ++ zone

/-- Nanoseconds below a millisecond and the zone behind them, as they are written. -/
def microsTail (nanos : Nat) : List Char :=
  if nanos = 0 then zone else fixedDigits 3 (nanos / 1000) ++ nanosTail (nanos % 1000)

/-- A fraction of a second and the zone behind it, as they are written. -/
def fractionTail (nanos : Nat) : List Char :=
  if nanos = 0 then zone
  else '.' :: (fixedDigits 3 (nanos / 1000000) ++ microsTail (nanos % 1000000))

/-- The digits that are left out are zeros, so that group by group the same is written. -/
theorem fractionText_zone {nanos : Nat} (hFits : nanos < 1000000000) :
    (fractionText nanos).toList ++ zone = fractionTail nanos := by
  have hMillis : nanos / 1000000 < 10 ^ 3 := by omega
  have hMicros : nanos / 1000 < 10 ^ 6 := by omega
  have hNanos : nanos < 10 ^ 9 := hFits
  unfold fractionText fractionTail microsTail nanosTail
  by_cases hZero : nanos = 0
  · rw [if_pos hZero, if_pos hZero]
    rfl
  rw [if_neg hZero, if_neg hZero]
  by_cases hWholeMillis : nanos % 1000000 = 0
  · rw [if_pos hWholeMillis, if_pos hWholeMillis, String.toList_append, toList_padded hMillis]
    rfl
  rw [if_neg hWholeMillis, if_neg hWholeMillis]
  have hMiddle : fixedDigits 3 (nanos % 1000000 / 1000) = fixedDigits 3 (nanos / 1000) := by
    rw [← fixedDigits_mod 3 (nanos / 1000)]
    congr 1
    omega
  have hSplit : fixedDigits 6 (nanos / 1000) =
      fixedDigits 3 (nanos / 1000000) ++ fixedDigits 3 (nanos / 1000) := by
    rw [fixedDigits_add 3 3 (nanos / 1000), Nat.div_div_eq_div_mul]
    rfl
  have hRest : nanos % 1000000 % 1000 = nanos % 1000 := by omega
  rw [hMiddle, hRest]
  by_cases hWholeMicros : nanos % 1000 = 0
  · rw [if_pos hWholeMicros, if_pos hWholeMicros, String.toList_append, toList_padded hMicros, hSplit]
    simp
  · have hLast : fixedDigits 3 (nanos % 1000) = fixedDigits 3 nanos := fixedDigits_mod 3 nanos
    have hAll : fixedDigits 9 nanos = fixedDigits 6 (nanos / 1000) ++ fixedDigits 3 nanos :=
      fixedDigits_add 6 3 nanos
    rw [if_neg hWholeMicros, if_neg hWholeMicros, String.toList_append, toList_padded hNanos, hAll,
      hSplit, hLast]
    simp

theorem zone_lt_digits (n : Nat) (x : List Char) : zone < fixedDigits 3 n ++ x :=
  lt_fixedDigits_append (by decide) 2 n _ x

theorem nanosTail_lt {a b : Nat} (hLess : a < b) (hFits : b < 1000) : nanosTail a < nanosTail b := by
  unfold nanosTail
  rw [if_neg (show b ≠ 0 by omega)]
  split
  · exact zone_lt_digits b zone
  · exact fixedDigits_append_lt hFits (.inl hLess)

theorem microsTail_lt {a b : Nat} (hLess : a < b) (hFits : b < 1000000) :
    microsTail a < microsTail b := by
  unfold microsTail
  rw [if_neg (show b ≠ 0 by omega)]
  split
  · exact zone_lt_digits _ _
  · refine fixedDigits_append_lt (by omega) ?_
    by_cases hGroup : a / 1000 < b / 1000
    · exact .inl hGroup
    · exact .inr ⟨by omega, nanosTail_lt (by omega) (by omega)⟩

theorem fractionTail_lt {a b : Nat} (hLess : a < b) (hFits : b < 1000000000) :
    fractionTail a < fractionTail b := by
  unfold fractionTail
  rw [if_neg (show b ≠ 0 by omega)]
  split
  · exact List.cons_lt_cons_iff.mpr (.inl (by decide))
  · refine List.cons_lt_cons_iff.mpr (.inr ⟨rfl, fixedDigits_append_lt (by omega) ?_⟩)
    by_cases hGroup : a / 1000000 < b / 1000000
    · exact .inl hGroup
    · exact .inr ⟨by omega, microsTail_lt (by omega) (by omega)⟩

/-! ## Whole timestamps -/

/-- An instant in the years that are written in four digits. -/
def InWrittenYears (i : Instant) : Prop :=
  0 ≤ i.date.year ∧ i.date.year ≤ 9999

instance (i : Instant) : Decidable i.InWrittenYears :=
  inferInstanceAs (Decidable (_ ∧ _))

/-- The time of day and the zone behind it, as they are written. -/
def writtenClock (i : Instant) : List Char :=
  fixedDigits 2 (i.secondOfDay.toNat / 3600) ++ ':' ::
    (fixedDigits 2 (i.secondOfDay.toNat / 60 % 60) ++ ':' ::
      (fixedDigits 2 (i.secondOfDay.toNat % 60 + i.nanos / 1000000000) ++
        fractionTail (i.nanos % 1000000000)))

/-- What stands behind the year in a timestamp, field by field. -/
def writtenDay (i : Instant) : List Char :=
  '-' :: (fixedDigits 2 i.date.month ++ '-' :: (fixedDigits 2 i.date.day ++ 'T' :: i.writtenClock))

/-- A timestamp of such a year, field by field. -/
def written (i : Instant) : List Char :=
  fixedDigits 4 i.date.year.toNat ++ '-' ::
    (fixedDigits 2 i.date.month ++ '-' :: (fixedDigits 2 i.date.day ++ 'T' :: i.writtenClock))

theorem secondOfDay_bounds (i : Instant) : 0 ≤ i.secondOfDay ∧ i.secondOfDay < 86400 := by
  unfold secondOfDay
  omega

theorem second_le_sixty (i : Instant) :
    i.secondOfDay.toNat % 60 + i.nanos / 1000000000 ≤ 60 ∧
      (i.secondOfDay.toNat % 60 < 59 → i.nanos < 1000000000) := by
  have hDay := i.secondOfDay_bounds
  have hFit := i.nanosFit
  unfold secondOfDay at *
  omega

theorem isValid_date (i : Instant) : i.date.isValid = true :=
  Date.isValid_ofDayNumber _

theorem date_bounds (i : Instant) : (1 ≤ i.date.month ∧ i.date.month ≤ 12) ∧ i.date.day ≤ 31 := by
  obtain ⟨hMonth, -, hDay⟩ := Date.isValid_iff.mp i.isValid_date
  exact ⟨hMonth, hDay.trans (Date.monthLength_le _ _)⟩

theorem toList_stored (i : Instant) :
    i.stored.toList = (Date.yearText i.date.year).toList ++ i.writtenDay := by
  obtain ⟨⟨-, hMonth⟩, hDay⟩ := i.date_bounds
  obtain ⟨hSecond, -⟩ := i.second_le_sixty
  have hClock := i.secondOfDay_bounds
  have hFraction := fractionText_zone (Nat.mod_lt i.nanos (show 0 < 1000000000 by decide))
  unfold stored zoneless Date.toText writtenDay writtenClock
  rw [← hFraction]
  simp only [String.toList_append]
  -- each number fits its field
  rw [toList_padded (by omega), toList_padded (by omega), toList_padded (by omega),
    toList_padded (by omega), toList_padded (by omega)]
  simp [zone]

theorem toList_stored_of_year {i : Instant} (hYear : i.InWrittenYears) : i.stored.toList = i.written := by
  obtain ⟨hFirst, hLast⟩ := hYear
  rw [toList_stored, Date.yearText, if_pos ⟨hFirst, hLast⟩, toList_padded (by omega)]
  rfl

variable {a b : Instant}

theorem le_iff_not_lt : a ≤ b ↔ ¬ b < a := by
  change (a.seconds < b.seconds ∨ a.seconds = b.seconds ∧ a.nanos ≤ b.nanos) ↔
    ¬ (b.seconds < a.seconds ∨ b.seconds = a.seconds ∧ b.nanos < a.nanos)
  omega

/-- Within a day the later time is the greater text; a leap second is written as second 60. -/
theorem writtenClock_lt (hLess : a.secondOfDay < b.secondOfDay ∨
    a.secondOfDay = b.secondOfDay ∧ a.nanos < b.nanos) : a.writtenClock < b.writtenClock := by
  have hFirst := a.secondOfDay_bounds
  have hSecond := b.secondOfDay_bounds
  obtain ⟨hSixty, -⟩ := b.second_le_sixty
  obtain ⟨-, hLeap⟩ := a.second_le_sixty
  unfold writtenClock
  refine fixedDigits_append_lt (by omega) ?_
  by_cases hHour : a.secondOfDay.toNat / 3600 < b.secondOfDay.toNat / 3600
  · exact .inl hHour
  refine .inr ⟨by omega, cons_lt_cons_of_lt ':' (fixedDigits_append_lt (by omega) ?_)⟩
  by_cases hMinute : a.secondOfDay.toNat / 60 % 60 < b.secondOfDay.toNat / 60 % 60
  · exact .inl hMinute
  refine .inr ⟨by omega, cons_lt_cons_of_lt ':' (fixedDigits_append_lt (by omega) ?_)⟩
  by_cases hWhole : a.secondOfDay.toNat % 60 + a.nanos / 1000000000 <
      b.secondOfDay.toNat % 60 + b.nanos / 1000000000
  · exact .inl hWhole
  · exact .inr ⟨by omega, fractionTail_lt (by omega) (by omega)⟩

@[simp]
theorem dayNumber_date (i : Instant) : i.date.dayNumber = i.seconds / 86400 :=
  Date.dayNumber_ofDayNumber _

theorem seconds_le_of_le (hLe : a ≤ b) : a.seconds ≤ b.seconds := by
  change a.seconds < b.seconds ∨ a.seconds = b.seconds ∧ a.nanos ≤ b.nanos at hLe
  omega

theorem seconds_le_of_lt (hLess : a < b) : a.seconds ≤ b.seconds := by
  change a.seconds < b.seconds ∨ a.seconds = b.seconds ∧ a.nanos < b.nanos at hLess
  omega

/-- Later instants lie in no earlier year. -/
theorem year_mono (hLe : a.seconds ≤ b.seconds) : a.date.year ≤ b.date.year := by
  refine Date.year_mono a.isValid_date b.isValid_date ?_
  rw [dayNumber_date, dayNumber_date]
  omega

theorem writtenDay_lt_of_day (hYear : a.date.year = b.date.year)
    (hLess : a.seconds / 86400 < b.seconds / 86400) : a.writtenDay < b.writtenDay := by
  obtain ⟨hMonth, -⟩ := a.date_bounds
  obtain ⟨hOtherMonth, hDay⟩ := b.date_bounds
  rw [← dayNumber_date, ← dayNumber_date,
    Date.dayNumber_lt_iff a.isValid_date b.isValid_date] at hLess
  unfold Date.monthIndex at hLess
  unfold writtenDay
  refine cons_lt_cons_of_lt '-' (fixedDigits_append_lt (by omega) ?_)
  by_cases hEarlier : a.date.month < b.date.month
  · exact .inl hEarlier
  exact .inr ⟨by omega, cons_lt_cons_of_lt '-' (fixedDigits_append_lt (by omega) (.inl (by omega)))⟩

/-- Within a year, whichever it is, the later instant is the greater text. -/
theorem writtenDay_lt (hYear : a.date.year = b.date.year) (hLess : a < b) :
    a.writtenDay < b.writtenDay := by
  have hOrder : a.seconds < b.seconds ∨ a.seconds = b.seconds ∧ a.nanos < b.nanos := hLess
  by_cases hDay : a.seconds / 86400 < b.seconds / 86400
  · exact writtenDay_lt_of_day hYear hDay
  · have hSameDay : a.seconds / 86400 = b.seconds / 86400 := by omega
    have hDate : a.date = b.date := congrArg Date.ofDayNumber hSameDay
    have hClock : a.writtenClock < b.writtenClock := by
      refine writtenClock_lt ?_
      unfold secondOfDay
      omega
    unfold writtenDay
    rw [hDate]
    exact cons_lt_cons_of_lt '-' (List.append_left_lt
      (cons_lt_cons_of_lt '-' (List.append_left_lt (cons_lt_cons_of_lt 'T' hClock))))

theorem written_lt (hYears : a.InWrittenYears) (hOtherYears : b.InWrittenYears) (hLess : a < b) :
    a.written < b.written := by
  obtain ⟨hFirst, -⟩ := hYears
  obtain ⟨-, hLast⟩ := hOtherYears
  have hMono := year_mono (seconds_le_of_lt hLess)
  refine fixedDigits_append_lt (x := a.writtenDay) (y := b.writtenDay) (by omega) ?_
  by_cases hYear : a.date.year = b.date.year
  · exact .inr ⟨by rw [hYear], writtenDay_lt hYear hLess⟩
  · exact .inl (by omega)

theorem eq_of_parts (hSeconds : a.seconds = b.seconds) (hNanos : a.nanos = b.nanos) : a = b := by
  cases a
  cases b
  cases hSeconds
  cases hNanos
  rfl

/-- The order of the instants is total. -/
theorem lt_or_eq_of_not_lt (hNot : ¬ a < b) : b < a ∨ a = b := by
  have hLe : b.seconds < a.seconds ∨ b.seconds = a.seconds ∧ b.nanos ≤ a.nanos := le_iff_not_lt.mpr hNot
  by_cases hSame : a.seconds = b.seconds ∧ a.nanos = b.nanos
  · exact .inr (eq_of_parts hSame.1 hSame.2)
  · left
    change b.seconds < a.seconds ∨ b.seconds = a.seconds ∧ b.nanos < a.nanos
    omega

/-- Texts that follow the order of the instants one way follow it both ways. -/
theorem lt_iff_of_texts {x y : List Char} (hLess : a < b → x < y) (hMore : b < a → y < x)
    (hSame : a = b → x = y) : x < y ↔ a < b := by
  refine ⟨fun hText => ?_, hLess⟩
  by_contra hNot
  rcases lt_or_eq_of_not_lt hNot with hLater | hEqual
  · exact lt_asymm hText (hMore hLater)
  · exact absurd (hSame hEqual) (ne_of_lt hText)

/-- In the years of four digits stored timestamps are ordered as the instants are. -/
theorem storedBefore_iff (hYears : a.InWrittenYears) (hOtherYears : b.InWrittenYears) :
    a.storedBefore b = true ↔ a < b := by
  unfold storedBefore
  rw [decide_eq_true_iff, String.lt_iff_toList_lt, toList_stored_of_year hYears,
    toList_stored_of_year hOtherYears]
  exact lt_iff_of_texts (written_lt hYears hOtherYears) (written_lt hOtherYears hYears) (congrArg written)

theorem le_of_not_storedBefore (hYears : a.InWrittenYears) (hOtherYears : b.InWrittenYears)
    (hNot : b.storedBefore a = false) : a ≤ b := by
  rw [le_iff_not_lt, ← storedBefore_iff hOtherYears hYears, hNot]
  exact Bool.false_ne_true

/-- Within a year stored timestamps are ordered as the instants are, whichever year it is. -/
theorem storedBefore_iff_of_year (hYear : a.date.year = b.date.year) :
    a.storedBefore b = true ↔ a < b := by
  unfold storedBefore
  rw [decide_eq_true_iff, String.lt_iff_toList_lt, toList_stored, toList_stored, hYear]
  refine lt_iff_of_texts (fun hLess => ?_) (fun hMore => ?_) fun hSame => by rw [hSame]
  · exact List.append_left_lt (writtenDay_lt hYear hLess)
  · exact List.append_left_lt (writtenDay_lt hYear.symm hMore)

/-- A year that is written with a sign is stored before all years of four digits. -/
theorem storedBefore_of_signed (hSigned : ¬ a.InWrittenYears) (hYears : b.InWrittenYears) :
    a.storedBefore b = true := by
  unfold storedBefore
  rw [decide_eq_true_iff, String.lt_iff_toList_lt, toList_stored_of_year hYears]
  obtain ⟨sign, hSign, rest, hText⟩ : ∃ sign, sign < '0' ∧ ∃ rest, a.stored.toList = sign :: rest := by
    have hRange : ¬ (0 ≤ a.date.year ∧ a.date.year ≤ 9999) := hSigned
    unfold stored zoneless Date.toText Date.yearText
    rw [if_neg hRange]
    by_cases hLate : 0 ≤ a.date.year
    · rw [if_pos hLate]
      simp only [String.toList_append, List.append_assoc]
      exact ⟨'+', by decide, _, rfl⟩
    · rw [if_neg hLate]
      simp only [String.toList_append, List.append_assoc]
      exact ⟨'-', by decide, _, rfl⟩
  rw [hText]
  exact lt_fixedDigits_append hSign 3 _ rest _

end CardLedger.Instant

/-! ## Rows by their time -/

namespace CardLedger.Store

section

variable {α β : Type} [LinearOrder β] {before : α → α → Bool} (key : α → β) (rows : List α)

theorem before_trans_of_key (hBefore : ∀ a b, before a b = true ↔ key a ≤ key b) (a b c : α) :
    before a b = true → before b c = true → before a c = true := by
  rw [hBefore, hBefore, hBefore]
  exact le_trans

theorem before_total_of_key (hBefore : ∀ a b, before a b = true ↔ key a ≤ key b) (a b : α) :
    (before a b || before b a) = true := by
  rw [Bool.or_eq_true, hBefore, hBefore]
  exact le_total _ _

theorem pairwise_mergeSort_key (hBefore : ∀ a b, before a b = true ↔ key a ≤ key b) :
    (rows.mergeSort before).Pairwise fun a b => before a b = true :=
  List.pairwise_mergeSort (before_trans_of_key key hBefore) (before_total_of_key key hBefore) rows

/-- Rows of one key keep their order. -/
theorem filter_mergeSort_key {p : α → Bool} (hBefore : ∀ a b, before a b = true ↔ key a ≤ key b)
    (hSame : ∀ a b, p a = true → p b = true → key a = key b) :
    (rows.mergeSort before).filter p = rows.filter p := by
  have hSorted : (rows.filter p).Pairwise fun a b => before a b = true := by
    refine List.pairwise_of_forall_mem_list fun a ha b hb => (hBefore a b).mpr (le_of_eq ?_)
    exact hSame a b (List.mem_filter.mp ha).2 (List.mem_filter.mp hb).2
  have hSub := (List.sublist_mergeSort (before_trans_of_key key hBefore) (before_total_of_key key hBefore)
    hSorted List.filter_sublist).filter p
  rw [List.filter_filter] at hSub
  simp only [Bool.and_self] at hSub
  exact (hSub.eq_of_length ((List.mergeSort_perm rows before).filter p).length_eq.symm).symm

end

variable {α : Type} {createdAt : α → Instant} {rows : List α}

theorem not_storedBefore_iff {a b : Instant} : (!a.storedBefore b) = true ↔ b.stored ≤ a.stored := by
  rw [Instant.storedBefore, Bool.not_eq_true', decide_eq_false_iff_not, not_lt]

theorem oldestFirst_perm : (oldestFirst createdAt rows).Perm rows :=
  List.mergeSort_perm _ _

theorem newestFirst_perm : (newestFirst createdAt rows).Perm rows :=
  List.mergeSort_perm _ _

/-- No row stands before one that is stored under an earlier timestamp. -/
theorem pairwise_oldestFirst :
    (oldestFirst createdAt rows).Pairwise fun a b => (createdAt b).storedBefore (createdAt a) = false := by
  have hSorted := pairwise_mergeSort_key (fun r => (createdAt r).stored) rows fun _ _ => not_storedBefore_iff
  unfold oldestFirst
  simpa only [Bool.not_eq_true'] using hSorted

/-- No row stands before one that is stored under a later timestamp. -/
theorem pairwise_newestFirst :
    (newestFirst createdAt rows).Pairwise fun a b => (createdAt a).storedBefore (createdAt b) = false := by
  have hSorted := pairwise_mergeSort_key (fun r => OrderDual.toDual (createdAt r).stored) rows
    fun _ _ => not_storedBefore_iff
  unfold newestFirst
  simpa only [Bool.not_eq_true'] using hSorted

/-- Rows stored under one timestamp keep the order of their insertion. -/
theorem filter_oldestFirst (text : String) :
    (oldestFirst createdAt rows).filter (fun r => (createdAt r).stored == text) =
      rows.filter fun r => (createdAt r).stored == text := by
  refine filter_mergeSort_key (fun r => (createdAt r).stored) rows (fun _ _ => not_storedBefore_iff)
    fun a b ha hb => ?_
  rw [beq_iff_eq.mp ha, beq_iff_eq.mp hb]

theorem oldestFirst_of_same_time {now : Instant} (hTime : ∀ r ∈ rows, createdAt r = now) :
    oldestFirst createdAt rows = rows := by
  have hAll : ∀ r ∈ rows, ((createdAt r).stored == now.stored) = true := by
    intro r hMem
    rw [hTime r hMem]
    exact beq_self_eq_true _
  have hSame : (oldestFirst createdAt rows).filter (fun r => (createdAt r).stored == now.stored) =
      rows.filter fun r => (createdAt r).stored == now.stored := filter_oldestFirst now.stored
  rwa [List.filter_eq_self.mpr hAll,
    List.filter_eq_self.mpr fun r hMem => hAll r (oldestFirst_perm.mem_iff.mp hMem)] at hSame

end CardLedger.Store
