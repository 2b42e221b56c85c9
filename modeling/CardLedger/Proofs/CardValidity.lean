import CardLedger.Proofs.IssuanceRuns
import CardLedger.Proofs.IssueEffect
import CardLedger.Proofs.YearTurn

/-!
# How long a card may be valid

The settings of a text have been checked when they are read, and so have their default controls. The
validity of cards has only been checked not to be zero. It is the one thing left at which issuing for an
active company with pending rows can fail: the end of the validity has to lie in the years of the
calendar.
-/

namespace CardLedger

/-! ## Whole years in the calendar -/

namespace Date

variable {d : Date}

theorem isValid_addMonths (count : Nat) (hValid : d.isValid = true) :
    (d.addMonths count).isValid = true := by
  obtain ⟨-, hDay, -⟩ := isValid_iff.mp hValid
  refine isValid_iff.mpr ⟨?_, ?_, Nat.min_le_right _ _⟩
  · unfold addMonths
    dsimp only
    omega
  · exact Nat.le_min.mpr ⟨hDay, one_le_monthLength _ _⟩

/-- Whole years later it is that many years later, the last of February included. -/
theorem year_addMonths (years : Nat) (hValid : d.isValid = true) :
    (d.addMonths (12 * years)).year = d.year + years := by
  obtain ⟨hMonth, -⟩ := isValid_iff.mp hValid
  unfold addMonths
  dsimp only
  omega

/-- Every second of a day of the calendar is one of its seconds. -/
theorem seconds_inCalendar {second : Int} (hValid : d.isValid = true) (hYears : d.inCalendar = true)
    (hSecond : 0 ≤ second ∧ second < 86400) :
    firstSecond ≤ 86400 * d.dayNumber + second ∧ 86400 * d.dayNumber + second ≤ lastSecond := by
  have hStart : dayNumber ⟨-262143, 1, 1⟩ = -96465292 := by decide
  have hStop : dayNumber ⟨262143, 1, 1⟩ = 95026237 := by decide
  have hFrom := dayNumber_lt_newYear_iff hValid (-262143)
  have hTo := dayNumber_lt_newYear_iff hValid 262143
  unfold inCalendar firstYear lastYear at hYears
  simp only [Bool.and_eq_true, decide_eq_true_eq] at hYears
  unfold firstSecond lastSecond
  omega

end Date

namespace Instant

/-- The same time whole years later is in the calendar exactly if its year is. -/
theorem isSome_addMonths?_iff (i : Instant) (years : Nat) :
    (i.addMonths? (12 * years)).isSome ↔ i.date.year + years ≤ Date.lastYear := by
  have hValid := Date.isValid_addMonths (12 * years) i.isValid_date
  have hYear := Date.year_addMonths years i.isValid_date
  have hFirst := i.year_bounds.1
  have hSecond := i.secondOfDay_bounds
  have hInYears : (i.date.addMonths (12 * years)).inCalendar = true ↔
      i.date.year + years ≤ Date.lastYear := by
    unfold Date.inCalendar Date.firstYear
    rw [hYear, Bool.and_eq_true, decide_eq_true_eq, decide_eq_true_eq]
    omega
  unfold addMonths?
  dsimp only
  by_cases hYears : (i.date.addMonths (12 * years)).inCalendar = true
  · -- a leap second stays at the end of its minute
    have hNanos : i.nanos < 1000000000 ∨ (i.nanos < 2000000000 ∧
        (86400 * (i.date.addMonths (12 * years)).dayNumber + i.secondOfDay) % 60 = 59) := by
      have hFit := i.nanosFit
      unfold secondOfDay
      omega
    rw [if_pos hYears]
    unfold ofParts?
    rw [dif_pos (Date.seconds_inCalendar hValid hYears hSecond), dif_pos hNanos]
    simpa using hInYears.mp hYears
  · rw [if_neg hYears]
    simpa using hInYears.not.mp hYears

end Instant

/-! ## Issuing with settings of a text -/

theorem validityMonths_eq {years : Nat} (hFits : 12 * years < 4294967296) :
    validityMonths years = 12 * years := by
  unfold validityMonths
  rw [Nat.mul_comm]
  exact Nat.mod_eq_of_lt hFits

namespace Store

variable {s : Store} {a : Ambient} {now : Instant} {company : Uuid} {settings : IssuanceSettings}

/-- For an active company with pending rows and proper controls the calendar is all that is asked. -/
theorem settle_issueChecks (hActive : s.IsActive company)
    (hControls : checkControls settings.defaultControls = .ok ()) (hPending : s.pending company ≠ []) :
    settle (s.issueChecks now settings company) =
      if (now.addMonths? (validityMonths settings.validityYears)).isSome then .ok ()
      else .error (.config (.validityOverflow settings.validityYears)) := by
  have hCompany : settle (s.companyChecks company) = .ok () := by
    rw [← checkActive_eq_settle]
    exact checkActive_eq_ok_iff.mpr hActive
  rw [checkControls_eq_settle] at hControls
  unfold issueChecks pendingChecks
  rw [settle_append, settle_append, hCompany, ok_bind, hControls, ok_bind, settle_demand,
    if_pos (pending_ne_nil_iff.mp hPending), settle_demand, settle_nil]

theorem issue_of_overflow (hActive : s.IsActive company)
    (hControls : checkControls settings.defaultControls = .ok ()) (hPending : s.pending company ≠ [])
    (hOutside : a.now.addMonths? (validityMonths settings.validityYears) = none) :
    s.issue a settings company = .error (.config (.validityOverflow settings.validityYears)) := by
  rw [issue_eq_settle, settle_issueChecks hActive hControls hPending, hOutside]
  rfl

/-- After a run that draws fresh identifiers an active company gets its cards as soon as the calendar
holds the end of their validity and the payloads of the default controls can be read back. -/
theorem issue_of_run {calls : List Call} (hFresh : FreshRun {} calls)
    (hActive : (run {} calls).IsActive company)
    (hControls : checkControls settings.defaultControls = .ok ())
    (hPending : (run {} calls).pending company ≠ [])
    (hWithin : (a.now.addMonths? (validityMonths settings.validityYears)).isSome)
    (hReadable : ∀ v ∈ settings.defaultControls, (a.jsonColumn v.toPayload).isSome)
    (hDrawn : a.FreshFor (run {} calls) ((Operation.issue settings company).draws (run {} calls))) :
    ∃ result, (run {} calls).issue a settings company = .ok result := by
  obtain ⟨hIssued, -⟩ := run_issued Reconciled.empty .empty hFresh
  have hPermuted : ((run {} calls).pending company).Perm
      ((run {} calls).queue.filter fun r => r.companyId == company && r.status == .pending) :=
    oldestFirst_perm
  have hRows : (((run {} calls).pending company).map (·.cardId)).Nodup :=
    (hPermuted.map _).nodup_iff.mpr (hIssued.cardIdsKeyed.sublist (List.filter_sublist.map _))
  refine issue_succeeds hRows (fun r hMem c hCard => ?_) hDrawn hReadable (settle_eq_ok_iff.mp ?_)
  · obtain ⟨hQueue, -, hStatus⟩ := mem_pending.mp hMem
    exact hIssued.pending r hQueue hStatus c.face (List.mem_map_of_mem hCard)
  · rw [settle_issueChecks hActive hControls hPending, if_pos hWithin]

/-- **Accepted settings leave issuing one way to fail.** Whatever text the settings were read from, and
whatever run of the workflow has led to an active company with pending rows: as long as the payloads of the
default controls can be read back, issuing in the years 2025 to 2099 gives each of these rows its card if
the validity ends in a year of the calendar, which holds of every validity of up to 260043 years. Otherwise
it fails over the validity and nothing else, unless there are so many years that their months do not fit in
32 bits. -/
theorem issue_of_accepted_settings {text : String} {accepted : Settings} {calls : List Call}
    (hParse : Settings.parse text = .ok accepted) (hFresh : FreshRun {} calls)
    (hActive : (run {} calls).IsActive company)
    (hPending : ∃ r ∈ (run {} calls).queue, r.companyId = company ∧ r.status = .pending)
    (hYears : 2025 ≤ a.now.date.year ∧ a.now.date.year ≤ 2099)
    (hDrawn : a.FreshFor (run {} calls) ((Operation.issue accepted.issuance company).draws (run {} calls))) :
    ((∀ v ∈ accepted.issuance.defaultControls, (a.jsonColumn v.toPayload).isSome) →
      (a.now.date.year + accepted.issuance.validityYears ≤ 262142 →
        ∃ cards next, (run {} calls).issue a accepted.issuance company = .ok (cards, next) ∧
          cards.map (·.id) = ((run {} calls).pending company).map (·.cardId)) ∧
      (accepted.issuance.validityYears ≤ 260043 →
        ∃ result, (run {} calls).issue a accepted.issuance company = .ok result)) ∧
    (262142 < a.now.date.year + accepted.issuance.validityYears →
      12 * accepted.issuance.validityYears < 4294967296 →
      (run {} calls).issue a accepted.issuance company =
        .error (.config (.validityOverflow accepted.issuance.validityYears))) := by
  have hControls := Settings.checkControls_of_validate (Settings.validate_of_parse hParse)
  have hRows := pending_ne_nil_iff.mpr hPending
  have hWithin : 12 * accepted.issuance.validityYears < 4294967296 →
      ((a.now.addMonths? (validityMonths accepted.issuance.validityYears)).isSome ↔
        a.now.date.year + accepted.issuance.validityYears ≤ 262142) := by
    intro hFits
    rw [validityMonths_eq hFits]
    exact a.now.isSome_addMonths?_iff accepted.issuance.validityYears
  constructor
  · intro hReadable
    have hIssue : a.now.date.year + accepted.issuance.validityYears ≤ 262142 →
        ∃ result, (run {} calls).issue a accepted.issuance company = .ok result := by
      intro hEnds
      have hFits : 12 * accepted.issuance.validityYears < 4294967296 := by omega
      exact issue_of_run hFresh hActive hControls hRows ((hWithin hFits).mpr hEnds) hReadable hDrawn
    refine ⟨fun hEnds => ?_, fun hValidity => hIssue (by omega)⟩
    obtain ⟨⟨cards, next⟩, hOk⟩ := hIssue hEnds
    obtain ⟨-, -, -, hIds, -⟩ := issue_eq_ok (Reconciled.empty.run calls).keyed hOk
    exact ⟨cards, next, hOk, hIds⟩
  · intro hEnds hFits
    refine issue_of_overflow hActive hControls hRows (Option.not_isSome_iff_eq_none.mp ?_)
    rw [hWithin hFits]
    omega

end Store

namespace Sample

/-- The surroundings of a call at the start of the year 2025. -/
def in2025 : Ambient :=
  { surroundings 3 with now := ⟨1735689600, 0, by decide, by decide⟩ }

/-- The text of settings that ask for cards of some validity. -/
def validityText (years : String) : String :=
  "[issuance]\nvalidity_years = " ++ years

/-- Whether a text is accepted, for cards of so many years and no controls. -/
def asksFor (text : String) (years : Nat) : Bool :=
  match Settings.parse text with
  | .ok accepted => accepted.issuance.validityYears == years && accepted.issuance.defaultControls.isEmpty
  | .error _ => false

theorem exists_accepted {text : String} {years : Nat} (hAsks : asksFor text years = true) :
    ∃ accepted, Settings.parse text = .ok accepted ∧ accepted.issuance = ⟨years, []⟩ := by
  unfold asksFor at hAsks
  cases hParse : Settings.parse text with
  | error e =>
      rw [hParse] at hAsks
      cases hAsks
  | ok accepted =>
      rw [hParse] at hAsks
      obtain ⟨hYears, hControls⟩ := Bool.and_eq_true_iff.mp hAsks
      refine ⟨accepted, rfl, ?_⟩
      rw [← eq_of_beq hYears, ← List.isEmpty_iff.mp hControls]

theorem queuedTwo_ready :
    let s := Store.run {} queuedTwo
    FreshRun {} queuedTwo ∧ s.IsActive tenant ∧
      (∃ r ∈ s.queue, r.companyId = tenant ∧ r.status = .pending) ∧
      (2025 ≤ in2025.now.date.year ∧ in2025.now.date.year ≤ 2099) := by
  decide +kernel

end Sample

/-- Accepted settings for cards of 200 years let issuing go through, those for 300000 years do not. -/
theorem issue_of_accepted_settings_of_sample :
    let s := Store.run {} Sample.queuedTwo
    ∃ short long, Settings.parse (Sample.validityText "200") = .ok short ∧
      Settings.parse (Sample.validityText "300000") = .ok long ∧
      (∃ result, s.issue Sample.in2025 short.issuance Sample.tenant = .ok result) ∧
      s.issue Sample.in2025 long.issuance Sample.tenant = .error (.config (.validityOverflow 300000)) := by
  intro s
  obtain ⟨hFresh, hActive, hPending, hYears⟩ := Sample.queuedTwo_ready
  obtain ⟨short, hShort, hShortYears⟩ : ∃ accepted, Settings.parse (Sample.validityText "200") = .ok accepted ∧
      accepted.issuance = ⟨200, []⟩ := Sample.exists_accepted (by decide +kernel)
  obtain ⟨long, hLong, hLongYears⟩ : ∃ accepted, Settings.parse (Sample.validityText "300000") = .ok accepted ∧
      accepted.issuance = ⟨300000, []⟩ := Sample.exists_accepted (by decide +kernel)
  -- without default controls no identifier is drawn
  have hDrawn : ∀ years, Sample.in2025.FreshFor s ((Operation.issue ⟨years, []⟩ Sample.tenant).draws s) := by
    intro years
    rw [Operation.draws, List.length_nil, Nat.zero_mul]
    decide
  obtain ⟨hIssue, -⟩ := Store.issue_of_accepted_settings hShort hFresh hActive hPending hYears
    (hShortYears ▸ hDrawn 200)
  obtain ⟨-, hFails⟩ := Store.issue_of_accepted_settings hLong hFresh hActive hPending hYears
    (hLongYears ▸ hDrawn 300000)
  refine ⟨short, long, hShort, hLong, (hIssue fun _ _ => rfl).2 (by rw [hShortYears]; decide), ?_⟩
  have hYear : Sample.in2025.now.date.year = 2025 := by decide +kernel
  rw [hFails (by rw [hYear, hLongYears]; decide) (by rw [hLongYears]; decide), hLongYears]

/-- Accepted settings can make issuing fail for an active company with employees in its queue: nobody asks
about the end of the calendar before the first card is due. -/
theorem issue_fails_on_accepted_settings :
    let s := Store.run {} Sample.queuedTwo
    ∃ accepted, Settings.parse (Sample.validityText "300000") = .ok accepted ∧ FreshRun {} Sample.queuedTwo ∧
      s.IsActive Sample.tenant ∧
      (∃ r ∈ s.queue, r.companyId = Sample.tenant ∧ r.status = .pending) ∧
      (2025 ≤ Sample.in2025.now.date.year ∧ Sample.in2025.now.date.year ≤ 2099) ∧
      Sample.in2025.FreshFor s ((Operation.issue accepted.issuance Sample.tenant).draws s) ∧
      s.issue Sample.in2025 accepted.issuance Sample.tenant =
        .error (.config (.validityOverflow 300000)) := by
  intro s
  obtain ⟨hFresh, hActive, hPending, hYears⟩ := Sample.queuedTwo_ready
  obtain ⟨accepted, hParse, hIssuance⟩ : ∃ accepted,
      Settings.parse (Sample.validityText "300000") = .ok accepted ∧ accepted.issuance = ⟨300000, []⟩ :=
    Sample.exists_accepted (by decide +kernel)
  refine ⟨accepted, hParse, hFresh, hActive, hPending, hYears, ?_, ?_⟩
  · rw [hIssuance, Operation.draws, List.length_nil, Nat.zero_mul]
    decide
  · have hOutside : Sample.in2025.now.addMonths? (validityMonths 300000) = none := by
      rw [validityMonths_eq (by decide), ← Option.not_isSome_iff_eq_none, Instant.isSome_addMonths?_iff]
      decide +kernel
    have hFails : s.issue Sample.in2025 ⟨300000, []⟩ Sample.tenant =
        .error (.config (.validityOverflow 300000)) :=
      Store.issue_of_overflow hActive rfl (Store.pending_ne_nil_iff.mpr hPending) hOutside
    rw [hIssuance, hFails]

end CardLedger
