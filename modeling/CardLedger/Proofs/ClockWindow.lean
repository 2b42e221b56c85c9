import CardLedger.Control.Policy
import CardLedger.Proofs.Digits
import CardLedger.Proofs.Outcome

/-!
# Windows around the clock

A time of day is written in one or two digits for the hour, a colon, and one or two for the minute; nothing
else is read as one. A window goes forward from the minute at which it opens to the minute at which it
closes, past midnight if it has to. Whether it is open depends on the three minutes alone, and is told by
their distances on a clock of 1440 minutes: the two branches of the comparison are one stretch.

Main statement: `window_is_forward_stretch`.
-/

namespace CardLedger

/-- One or two decimal digits, and the number that they write. -/
inductive ShortNumeral : List Char → Nat → Prop where
  | one {d : Nat} (hDigit : d < 10) : ShortNumeral [Nat.digitChar d] d
  | two {t u : Nat} (hTens : t < 10) (hUnits : u < 10) :
      ShortNumeral [Nat.digitChar t, Nat.digitChar u] (10 * t + u)

/-- A text that writes a time of day, and the minutes that have passed at it since midnight. -/
inductive WritesMinute : String → Nat → Prop where
  | time {front back : List Char} {hour minute : Nat} (hFront : ShortNumeral front hour)
      (hBack : ShortNumeral back minute) (hHour : hour ≤ 23) (hMinute : minute ≤ 59) :
      WritesMinute (String.ofList (front ++ ':' :: back)) (60 * hour + minute)

/-- Whether hour and minute are such as a clock shows. -/
def LocalTime.IsOnClock (t : LocalTime) : Prop :=
  t.hour ≤ 23 ∧ t.minute ≤ 59

instance (t : LocalTime) : Decidable t.IsOnClock :=
  inferInstanceAs (Decidable (t.hour ≤ 23 ∧ t.minute ≤ 59))

variable {cs front back : List Char} {text : String} {n opening closing now : Nat}

/-! ## Digits and colons -/

theorem digitChar_value {d : Nat} (hDigit : d < 10) : (Nat.digitChar d).toNat - '0'.toNat = d := by
  rw [Nat.toNat_digitChar_of_lt_ten hDigit]
  exact Nat.add_sub_cancel_left 48 d

namespace ShortNumeral

theorem ofDigits (hNumeral : ShortNumeral cs n) : Number.ofDigits cs = n := by
  unfold Number.ofDigits
  cases hNumeral with
  | one hDigit => rw [List.foldl_cons, List.foldl_nil, digitChar_value hDigit, Nat.mul_zero, Nat.zero_add]
  | two hTens hUnits =>
      rw [List.foldl_cons, List.foldl_cons, List.foldl_nil, digitChar_value hTens, digitChar_value hUnits,
        Nat.mul_zero, Nat.zero_add]

theorem isDigit (hNumeral : ShortNumeral cs n) : ∀ c ∈ cs, c.isDigit = true := by
  cases hNumeral with
  | one hDigit => simp [Nat.isDigit_digitChar, hDigit]
  | two hTens hUnits => simp [Nat.isDigit_digitChar, hTens, hUnits]

theorem colon_not_mem (hNumeral : ShortNumeral cs n) : ':' ∉ cs :=
  fun hMem => absurd (hNumeral.isDigit ':' hMem) (by decide)

end ShortNumeral

theorem Text.splitAtFirst?_eq_some_iff {sep : Char} :
    Text.splitAtFirst? sep cs = some (front, back) ↔ cs = front ++ sep :: back ∧ sep ∉ front := by
  induction cs generalizing front with
  | nil => simp [splitAtFirst?]
  | cons c rest ih =>
      unfold splitAtFirst?
      by_cases hSep : c = sep
      · subst hSep
        rw [if_pos rfl]
        cases front with
        | nil => simp
        | cons first more => simp +contextual [eq_comm]
      · rw [if_neg hSep]
        cases front with
        | nil => simp [hSep]
        | cons first more =>
            simp only [Option.map_eq_some_iff, Prod.exists, Prod.mk.injEq, List.cons.injEq, List.cons_append,
              List.mem_cons, not_or]
            constructor
            · rintro ⟨before, after, hRest, ⟨rfl, rfl⟩, rfl⟩
              obtain ⟨hSplit, hBefore⟩ := ih.mp hRest
              exact ⟨⟨rfl, hSplit⟩, Ne.symm hSep, hBefore⟩
            · rintro ⟨⟨rfl, hSplit⟩, -, hBefore⟩
              exact ⟨more, back, ih.mpr ⟨hSplit, hBefore⟩, ⟨rfl, rfl⟩, rfl⟩

/-! ## Times of day -/

namespace TimeOfDay

theorem part?_eq_some_iff : part? cs = some n ↔ ShortNumeral cs n := by
  unfold part?
  constructor
  · intro hPart
    obtain ⟨⟨hLength, hDigits⟩, hValue⟩ := Option.ite_none_right_eq_some.mp hPart
    rw [List.all_eq_true] at hDigits
    -- its length tells which of the two numerals it is, and its value follows from that
    obtain ⟨m, hNumeral⟩ : ∃ m, ShortNumeral cs m := by
      match cs with
      | [c] =>
          obtain ⟨d, hDigit, rfl⟩ := Number.exists_digitChar (hDigits c (by simp))
          exact ⟨_, .one hDigit⟩
      | [c, e] =>
          obtain ⟨t, hTens, rfl⟩ := Number.exists_digitChar (hDigits c (by simp))
          obtain ⟨u, hUnits, rfl⟩ := Number.exists_digitChar (hDigits e (by simp))
          exact ⟨_, .two hTens hUnits⟩
      | [] => simp at hLength
      | _ :: _ :: _ :: rest => simp at hLength
    rw [hNumeral.ofDigits] at hValue
    cases hValue
    exact hNumeral
  · intro hNumeral
    have hLength : cs.length = 1 ∨ cs.length = 2 := by
      cases hNumeral with
      | one hDigit => exact .inl rfl
      | two hTens hUnits => exact .inr rfl
    rw [if_pos ⟨hLength, List.all_eq_true.mpr hNumeral.isDigit⟩, hNumeral.ofDigits]

theorem parts?_eq_some_iff {hour minute : Nat} : parts? text = some (hour, minute) ↔
    ∃ front back, text = String.ofList (front ++ ':' :: back) ∧ ShortNumeral front hour ∧
      ShortNumeral back minute := by
  unfold parts?
  constructor
  · intro hParts
    obtain ⟨⟨front, back⟩, hSplit, hRest⟩ := Option.bind_eq_some_iff.mp hParts
    obtain ⟨hour, hHour, hRest⟩ := Option.bind_eq_some_iff.mp hRest
    obtain ⟨minute, hMinute, hResult⟩ := Option.bind_eq_some_iff.mp hRest
    cases hResult
    obtain ⟨hText, -⟩ := Text.splitAtFirst?_eq_some_iff.mp hSplit
    refine ⟨front, back, ?_, part?_eq_some_iff.mp hHour, part?_eq_some_iff.mp hMinute⟩
    rw [← hText, String.ofList_toList]
  · rintro ⟨front, back, rfl, hFront, hBack⟩
    -- the first colon is the one in the middle, since a numeral has none
    rw [String.toList_ofList, Text.splitAtFirst?_eq_some_iff.mpr ⟨rfl, hFront.colon_not_mem⟩]
    simp [part?_eq_some_iff.mpr hFront, part?_eq_some_iff.mpr hBack]

/-- What is read as a time of day is what writes one, and nothing else. -/
theorem minutes_eq_ok_iff : minutes text = .ok n ↔ WritesMinute text n := by
  unfold minutes parse
  constructor
  · intro hRead
    cases hParts : parts? text with
    | none =>
        rw [hParts] at hRead
        cases hRead
    | some parts =>
        obtain ⟨front, back, rfl, hFront, hBack⟩ := parts?_eq_some_iff.mp hParts
        rw [hParts] at hRead
        dsimp only at hRead
        by_cases hHour : 23 < parts.1
        · rw [if_pos hHour] at hRead
          cases hRead
        · by_cases hMinute : 59 < parts.2
          · rw [if_neg hHour, if_pos hMinute] at hRead
            cases hRead
          · rw [if_neg hHour, if_neg hMinute] at hRead
            cases hRead
            exact .time hFront hBack (Nat.not_lt.mp hHour) (Nat.not_lt.mp hMinute)
  · intro hWrites
    cases hWrites with
    | time hFront hBack hHour hMinute =>
        rw [parts?_eq_some_iff.mpr ⟨_, _, rfl, hFront, hBack⟩]
        dsimp only
        rw [if_neg (Nat.not_lt.mpr hHour), if_neg (Nat.not_lt.mpr hMinute)]

theorem exists_error_iff : (∃ fault, minutes text = .error fault) ↔ ¬ ∃ n, WritesMinute text n := by
  simp only [← minutes_eq_ok_iff]
  cases minutes text with
  | error fault => simp
  | ok n => simp

end TimeOfDay

namespace WritesMinute

theorem lt_day (hWrites : WritesMinute text n) : n < 1440 := by
  cases hWrites with
  | time hFront hBack hHour hMinute => omega

/-- A time of day is written in ASCII digits around one colon. -/
theorem digits_and_colon (hWrites : WritesMinute text n) :
    (∀ c ∈ text.toList, c.isDigit = true ∨ c = ':') ∧ text.toList.count ':' = 1 := by
  cases hWrites with
  | time hFront hBack hHour hMinute =>
      rw [String.toList_ofList]
      constructor
      · intro c hMem
        rcases List.mem_append.mp hMem with hOfHour | hOfRest
        · exact .inl (hFront.isDigit c hOfHour)
        · rcases List.mem_cons.mp hOfRest with hColon | hOfMinute
          · exact .inr hColon
          · exact .inl (hBack.isDigit c hOfMinute)
      · rw [List.count_append, List.count_cons_self, List.count_eq_zero.mpr hFront.colon_not_mem,
          List.count_eq_zero.mpr hBack.colon_not_mem]

end WritesMinute

/-! ## Windows -/

/-- The two ways to compare minutes are one: what has passed since the opening is not more than what the
window has in all, both counted around the clock. -/
theorem withinClock_iff (hOpening : opening < 1440) (hClosing : closing < 1440) (hNow : now < 1440) :
    withinClock opening closing now = true ↔
      ((now : Int) - opening) % 1440 ≤ ((closing : Int) - opening) % 1440 := by
  unfold withinClock
  -- the window stays within a day, or goes on past midnight
  split
  · simp only [Bool.and_eq_true, decide_eq_true_eq]
    omega
  · simp only [Bool.or_eq_true, decide_eq_true_eq]
    omega

theorem LocalTime.IsOnClock.lt_day {t : LocalTime} (hTime : t.IsOnClock) : t.minuteOfDay < 1440 := by
  obtain ⟨hHour, hMinute⟩ := hTime
  unfold minuteOfDay
  omega

/-- The business clock shows what a clock shows. -/
theorem Offset.isOnClock_localTime (o : Offset) (i : Instant) : (o.localTime i).IsOnClock := by
  unfold LocalTime.IsOnClock localTime
  dsimp only
  omega

namespace TimeRule

variable {rule : TimeRule} {time : LocalTime}

theorem exists_error_iff : (∃ fault, rule.refusal? time = .error fault) ↔
    ¬ ((∃ n, WritesMinute rule.opening n) ∧ ∃ n, WritesMinute rule.closing n) := by
  rw [Classical.not_and_iff_not_or_not, ← TimeOfDay.exists_error_iff, ← TimeOfDay.exists_error_iff]
  unfold refusal?
  cases TimeOfDay.minutes rule.opening with
  | error fault => simp
  | ok opening =>
      cases TimeOfDay.minutes rule.closing with
      | error fault => simp
      | ok closing =>
          rw [ok_bind, ok_bind]
          split
          · simp
          · simp

theorem refusal?_eq_none_iff (hOpening : WritesMinute rule.opening opening)
    (hClosing : WritesMinute rule.closing closing) (hTime : time.IsOnClock) :
    rule.refusal? time = .ok none ↔
      ((time.minuteOfDay : Int) - opening) % 1440 ≤ ((closing : Int) - opening) % 1440 := by
  rw [← withinClock_iff hOpening.lt_day hClosing.lt_day hTime.lt_day]
  unfold refusal?
  rw [TimeOfDay.minutes_eq_ok_iff.mpr hOpening, TimeOfDay.minutes_eq_ok_iff.mpr hClosing, ok_bind, ok_bind]
  split
  · next hWithin => exact iff_of_true rfl hWithin
  · next hOutside => exact iff_of_false (by simp) hOutside

end TimeRule

/-- A time window admits exactly the minutes from its opening forward to its closing around the clock. It
fails exactly if one of its two texts does not write a time of day, which takes ASCII digits and one colon
and no other character. Otherwise it is open if the minutes that have passed since the opening are not more
than those from the opening to the closing, both counted modulo a day; neither the seconds nor the way in
which the two times are written make a difference. The business clock shows such times at every instant. -/
theorem window_is_forward_stretch :
    (∀ (rule : TimeRule) (time : LocalTime), (∃ fault, rule.refusal? time = .error fault) ↔
      ¬ ((∃ n, WritesMinute rule.opening n) ∧ ∃ n, WritesMinute rule.closing n)) ∧
    (∀ text n, WritesMinute text n →
      (∀ c ∈ text.toList, c.isDigit = true ∨ c = ':') ∧ text.toList.count ':' = 1) ∧
    (∀ (rule : TimeRule) (time : LocalTime) (opening closing : Nat), WritesMinute rule.opening opening →
      WritesMinute rule.closing closing → time.IsOnClock →
      (rule.refusal? time = .ok none ↔
        ((time.minuteOfDay : Int) - opening) % 1440 ≤ ((closing : Int) - opening) % 1440) ∧
      ∀ (other : TimeRule) (later : LocalTime), WritesMinute other.opening opening →
        WritesMinute other.closing closing → later.hour = time.hour → later.minute = time.minute →
        (other.refusal? later = .ok none ↔ rule.refusal? time = .ok none)) ∧
    ∀ (o : Offset) (i : Instant), (o.localTime i).IsOnClock := by
  refine ⟨fun rule time => TimeRule.exists_error_iff, fun text n hWrites => hWrites.digits_and_colon, ?_,
    Offset.isOnClock_localTime⟩
  intro rule time opening closing hOpening hClosing hTime
  refine ⟨TimeRule.refusal?_eq_none_iff hOpening hClosing hTime, ?_⟩
  intro other later hOtherOpening hOtherClosing hHour hMinute
  have hLater : later.IsOnClock := by
    unfold LocalTime.IsOnClock
    rwa [hHour, hMinute]
  have hSame : later.minuteOfDay = time.minuteOfDay := by
    unfold LocalTime.minuteOfDay
    rw [hHour, hMinute]
  rw [TimeRule.refusal?_eq_none_iff hOtherOpening hOtherClosing hLater, hSame,
    TimeRule.refusal?_eq_none_iff hOpening hClosing hTime]

/-- A window over night, in two spellings: open in the minute of its closing to the last second, closed in
the next one, and of no use with a second colon. -/
theorem window_is_forward_stretch_of_night :
    let night : TimeRule := ⟨"22:00", "06:05"⟩
    let short : TimeRule := ⟨"22:0", "6:5"⟩
    let exact : TimeRule := ⟨"22:00:00", "06:05"⟩
    WritesMinute night.opening 1320 ∧ WritesMinute night.closing 365 ∧ WritesMinute short.opening 1320 ∧
      WritesMinute short.closing 365 ∧ LocalTime.IsOnClock ⟨6, 5, 0⟩ ∧ LocalTime.IsOnClock ⟨6, 6, 0⟩ ∧
      night.refusal? ⟨6, 5, 0⟩ = .ok none ∧ short.refusal? ⟨6, 5, 59⟩ = .ok none ∧
      night.refusal? ⟨6, 6, 0⟩ ≠ .ok none ∧ ∃ fault, exact.refusal? ⟨6, 5, 0⟩ = .error fault := by
  intro night short exact
  obtain ⟨hFails, hShape, hOpen, -⟩ := window_is_forward_stretch
  have hOpening : WritesMinute "22:00" 1320 := TimeOfDay.minutes_eq_ok_iff.mp (by rfl)
  have hClosing : WritesMinute "06:05" 365 := TimeOfDay.minutes_eq_ok_iff.mp (by rfl)
  have hShortOpening : WritesMinute "22:0" 1320 := TimeOfDay.minutes_eq_ok_iff.mp (by rfl)
  have hShortClosing : WritesMinute "6:5" 365 := TimeOfDay.minutes_eq_ok_iff.mp (by rfl)
  have hLast : LocalTime.IsOnClock ⟨6, 5, 0⟩ := by decide
  have hNext : LocalTime.IsOnClock ⟨6, 6, 0⟩ := by decide
  obtain ⟨hAtLast, hRespelled⟩ := hOpen night ⟨6, 5, 0⟩ 1320 365 hOpening hClosing hLast
  have hAdmits : night.refusal? ⟨6, 5, 0⟩ = .ok none := hAtLast.mpr (by decide)
  refine ⟨hOpening, hClosing, hShortOpening, hShortClosing, hLast, hNext, hAdmits,
    (hRespelled short ⟨6, 5, 59⟩ hShortOpening hShortClosing rfl rfl).mpr hAdmits, ?_, ?_⟩
  · intro hAdmitted
    exact absurd ((hOpen night ⟨6, 6, 0⟩ 1320 365 hOpening hClosing hNext).1.mp hAdmitted) (by decide)
  · refine (hFails exact ⟨6, 5, 0⟩).mpr fun hBoth => ?_
    obtain ⟨n, hWrites⟩ := hBoth.1
    exact absurd (hShape exact.opening n hWrites).2 (by decide)

end CardLedger
