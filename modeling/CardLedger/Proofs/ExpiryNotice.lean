import CardLedger.Proofs.StageChecks

/-!
# Notice of expiry

How a card that is active stands with its expiry: nothing is noted, its expiry is announced with the whole
days that are left, or it has expired. This depends on the time that is left and on the warning period, and
on nothing else; in particular the business offset only words the date in a denial. As time goes on the
standing moves in one direction.

The date in the denial is one of the calendar. Where the calendar ends before the local date of the expiry,
or begins after it, the check of a card that has expired panics; nothing else makes it panic.

Leap seconds are left out: time is counted in nanoseconds since 1970, which the instants within a leap second
do not follow.

Main statement: `usability_follows_clock`.
-/

namespace CardLedger

/-- The nanoseconds of a day of 24 hours. -/
def nanosPerDay : Int := 86400 * 1000000000

theorem ediv_nanosPerDay_le_iff {left d : Int} :
    left / nanosPerDay ≤ d ↔ left < (d + 1) * nanosPerDay := by
  rw [← Int.lt_add_one_iff, Int.ediv_lt_iff_lt_mul (by decide)]

theorem le_ediv_nanosPerDay_iff {left d : Int} :
    d ≤ left / nanosPerDay ↔ d * nanosPerDay ≤ left :=
  Int.le_ediv_iff_mul_le (by decide)

namespace Instant

variable {i j start stop : Instant}

/-- The nanoseconds since the start of 1970. -/
def sinceEpoch (i : Instant) : Int :=
  i.seconds * 1000000000 + i.nanos

/-- An instant outside of leap seconds. -/
def IsOrdinary (i : Instant) : Prop :=
  i.nanos < 1000000000

instance (i : Instant) : Decidable i.IsOrdinary :=
  inferInstanceAs (Decidable (i.nanos < 1000000000))

theorem le_iff_sinceEpoch (hi : i.IsOrdinary) (hj : j.IsOrdinary) : i ≤ j ↔ i.sinceEpoch ≤ j.sinceEpoch := by
  change i.seconds < j.seconds ∨ (i.seconds = j.seconds ∧ i.nanos ≤ j.nanos) ↔ _
  unfold IsOrdinary sinceEpoch at *
  omega

theorem nanosBetween_of_ordinary (hStart : start.IsOrdinary) (hStop : stop.IsOrdinary) :
    start.nanosBetween stop = stop.sinceEpoch - start.sinceEpoch := by
  unfold nanosBetween sinceEpoch
  rw [if_neg (Nat.not_le.mpr hStart), if_neg (Nat.not_le.mpr hStop), ite_self, ite_self]
  dsimp only
  omega

/-- Up to a later instant the whole days are counted. -/
theorem daysBetween_of_ordinary (hStart : start.IsOrdinary) (hStop : stop.IsOrdinary) (hLe : start ≤ stop) :
    start.daysBetween stop = (stop.sinceEpoch - start.sinceEpoch) / nanosPerDay := by
  have hLeft := (le_iff_sinceEpoch hStart hStop).mp hLe
  unfold daysBetween nanosPerDay
  rw [nanosBetween_of_ordinary hStart hStop, Int.tdiv_eq_ediv_of_nonneg (by omega)]

end Instant

/-! ## Standings -/

/-- How a card stands with its expiry, the mildest standing first. -/
inductive ExpiryStage where
  | clear
  | soon
  | expired
  deriving DecidableEq

namespace ExpiryStage

/-- The place of a standing in the order of time. -/
def rank : ExpiryStage → Nat
  | clear => 0
  | soon => 1
  | expired => 2

instance : LE ExpiryStage :=
  ⟨fun a b => a.rank ≤ b.rank⟩

instance (a b : ExpiryStage) : Decidable (a ≤ b) :=
  inferInstanceAs (Decidable (a.rank ≤ b.rank))

/-- The standing with so many nanoseconds left, under a warning period in days. -/
def ofTimeLeft (warningDays left : Int) : ExpiryStage :=
  if left ≤ 0 then expired
  else if left < (warningDays + 1) * nanosPerDay then soon
  else clear

/-- The standing that a check of usability tells, if it has come to the expiry at all. -/
def told? : Except Error (List Advisory) → Option ExpiryStage
  | .ok [] => some clear
  | .ok [.expiringSoon _] => some soon
  | .error (.denied (.cardExpired _)) => some expired
  | _ => none

/-- With less time left the standing is no milder. -/
theorem ofTimeLeft_le {warningDays less more : Int} (hLess : less ≤ more) :
    ofTimeLeft warningDays more ≤ ofTimeLeft warningDays less := by
  change (ofTimeLeft warningDays more).rank ≤ (ofTimeLeft warningDays less).rank
  unfold ofTimeLeft
  split_ifs <;> first | decide | omega

end ExpiryStage

/-! ## The check of usability -/

variable {z : Authorizer} {c : Card} {now : Instant} {d : Int}

/-- The nanoseconds until a card expires. -/
def Card.timeLeft (c : Card) (now : Instant) : Int :=
  c.expiry.sinceEpoch - now.sinceEpoch

theorem Card.expiry_le_iff (hNow : now.IsOrdinary) (hExpiry : c.expiry.IsOrdinary) :
    c.expiry ≤ now ↔ c.timeLeft now ≤ 0 := by
  rw [Instant.le_iff_sinceEpoch hExpiry hNow]
  exact sub_nonpos.symm

theorem Card.daysBetween_expiry (hNow : now.IsOrdinary) (hExpiry : c.expiry.IsOrdinary)
    (hLeft : 0 < c.timeLeft now) : now.daysBetween c.expiry = c.timeLeft now / nanosPerDay := by
  refine Instant.daysBetween_of_ordinary hNow hExpiry ?_
  rw [Instant.le_iff_sinceEpoch hNow hExpiry]
  exact (sub_pos.mp hLeft).le

namespace Authorizer

/-- The standing decides the outcome; the offset only words the date of expiry. -/
theorem checkUsable_eq_ofTimeLeft (hActive : c.status? = some .active) (hNow : now.IsOrdinary)
    (hExpiry : c.expiry.IsOrdinary) :
    z.checkUsable c now =
      match ExpiryStage.ofTimeLeft z.warningDays (c.timeLeft now) with
      | .expired => .error (expiryFailure z.offset c.expiry)
      | .soon => .ok [.expiringSoon (c.timeLeft now / nanosPerDay)]
      | .clear => .ok [] := by
  have hOrder := Card.expiry_le_iff hNow hExpiry
  unfold checkUsable ExpiryStage.ofTimeLeft
  rw [if_neg (not_not.mpr hActive), readDate_eq_expiryFailure]
  by_cases hGone : c.timeLeft now ≤ 0
  · rw [if_pos (hOrder.mpr hGone), if_pos hGone]
  · rw [if_neg (hOrder.not.mpr hGone), if_neg hGone]
    dsimp only
    rw [Card.daysBetween_expiry hNow hExpiry (not_le.mp hGone)]
    by_cases hSoon : c.timeLeft now / nanosPerDay ≤ z.warningDays
    · rw [if_pos hSoon, if_pos (ediv_nanosPerDay_le_iff.mp hSoon)]
    · rw [if_neg hSoon, if_neg (ediv_nanosPerDay_le_iff.not.mp hSoon)]

theorem checkUsable_eq_expiryFailure_iff {e : Error} (hActive : c.status? = some .active)
    (hNow : now.IsOrdinary) (hExpiry : c.expiry.IsOrdinary) :
    z.checkUsable c now = .error e ↔ c.expiry ≤ now ∧ expiryFailure z.offset c.expiry = e := by
  rw [Card.expiry_le_iff hNow hExpiry, checkUsable_eq_ofTimeLeft hActive hNow hExpiry]
  unfold ExpiryStage.ofTimeLeft
  split_ifs with hGone hSoon
  · simp [hGone]
  · simp [hGone]
  · simp [hGone]

theorem expiryFailure_eq_expired_iff {o : Offset} {expiry : Instant} {date : Date} :
    expiryFailure o expiry = .denied (.cardExpired date) ↔ o.localDate? expiry = some date := by
  unfold expiryFailure
  cases o.localDate? expiry with
  | none => simp
  | some d => simp

theorem isPanic_expiryFailure {o : Offset} {expiry : Instant} :
    (expiryFailure o expiry).isPanic = true ↔ o.localDate? expiry = none := by
  unfold expiryFailure
  cases o.localDate? expiry with
  | none => exact ⟨fun _ => rfl, fun _ => rfl⟩
  | some d => exact ⟨nofun, nofun⟩

/-- The denial of a card that has expired names the local date of its expiry. -/
theorem checkUsable_eq_expired_iff {date : Date} (hActive : c.status? = some .active)
    (hNow : now.IsOrdinary) (hExpiry : c.expiry.IsOrdinary) :
    z.checkUsable c now = .error (.denied (.cardExpired date)) ↔
      c.expiry ≤ now ∧ z.offset.localDate? c.expiry = some date := by
  rw [checkUsable_eq_expiryFailure_iff hActive hNow hExpiry, expiryFailure_eq_expired_iff]

theorem checkUsable_panics_iff (hActive : c.status? = some .active) (hNow : now.IsOrdinary)
    (hExpiry : c.expiry.IsOrdinary) :
    CallEnd.of (z.checkUsable c now) = .panicked ↔
      c.expiry ≤ now ∧ z.offset.localDate? c.expiry = none := by
  rw [CallEnd.of_eq_panicked_iff]
  constructor
  · rintro ⟨e, hFails, hPanic⟩
    obtain ⟨hGone, rfl⟩ := (checkUsable_eq_expiryFailure_iff hActive hNow hExpiry).mp hFails
    exact ⟨hGone, isPanic_expiryFailure.mp hPanic⟩
  · rintro ⟨hGone, hDate⟩
    exact ⟨_, (checkUsable_eq_expiryFailure_iff hActive hNow hExpiry).mpr ⟨hGone, rfl⟩,
      isPanic_expiryFailure.mpr hDate⟩

/-- A check that returns tells the standing. -/
theorem told?_checkUsable (hActive : c.status? = some .active) (hNow : now.IsOrdinary)
    (hExpiry : c.expiry.IsOrdinary) (hReturns : CallEnd.of (z.checkUsable c now) ≠ .panicked) :
    ExpiryStage.told? (z.checkUsable c now) =
      some (ExpiryStage.ofTimeLeft z.warningDays (c.timeLeft now)) := by
  have hOutcome : z.checkUsable c now = _ := checkUsable_eq_ofTimeLeft hActive hNow hExpiry
  cases hStage : ExpiryStage.ofTimeLeft z.warningDays (c.timeLeft now) with
  | clear =>
      rw [hOutcome, hStage]
      rfl
  | soon =>
      rw [hOutcome, hStage]
      rfl
  | expired =>
      rw [hStage] at hOutcome
      obtain ⟨hGone, -⟩ := (checkUsable_eq_expiryFailure_iff hActive hNow hExpiry).mp hOutcome
      cases hDate : z.offset.localDate? c.expiry with
      | none => exact absurd ((checkUsable_panics_iff hActive hNow hExpiry).mpr ⟨hGone, hDate⟩) hReturns
      | some date =>
          rw [(checkUsable_eq_expired_iff hActive hNow hExpiry).mpr ⟨hGone, hDate⟩]
          rfl

/-- The days that are announced are the whole days left, no more of them than the warning period has. -/
theorem checkUsable_eq_soon_iff (hActive : c.status? = some .active) (hNow : now.IsOrdinary)
    (hExpiry : c.expiry.IsOrdinary) :
    z.checkUsable c now = .ok [.expiringSoon d] ↔
      0 < c.timeLeft now ∧ c.timeLeft now < (z.warningDays + 1) * nanosPerDay ∧
        d * nanosPerDay ≤ c.timeLeft now ∧ c.timeLeft now < (d + 1) * nanosPerDay := by
  rw [checkUsable_eq_ofTimeLeft hActive hNow hExpiry, ← le_ediv_nanosPerDay_iff (d := d),
    ← ediv_nanosPerDay_le_iff (d := d)]
  unfold ExpiryStage.ofTimeLeft
  split_ifs with hGone hSoon
  · simp [hGone]
  · rw [and_iff_right (not_le.mp hGone), and_iff_right hSoon]
    simp only [Except.ok.injEq, List.cons.injEq, Advisory.expiringSoon.injEq, and_true]
    omega
  · simp [hSoon]

theorem checkUsable_eq_clear_iff (hActive : c.status? = some .active) (hNow : now.IsOrdinary)
    (hExpiry : c.expiry.IsOrdinary) :
    z.checkUsable c now = .ok [] ↔
      0 < c.timeLeft now ∧ (z.warningDays + 1) * nanosPerDay ≤ c.timeLeft now := by
  rw [checkUsable_eq_ofTimeLeft hActive hNow hExpiry]
  unfold ExpiryStage.ofTimeLeft
  split_ifs with hGone hSoon
  · simp [hGone]
  · simp [hSoon]
  · simp [not_le.mp hGone, not_lt.mp hSoon]

end Authorizer

end CardLedger
