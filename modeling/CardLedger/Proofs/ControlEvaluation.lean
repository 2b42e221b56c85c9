import CardLedger.Control.Payload
import CardLedger.Control.Policy
import CardLedger.Proofs.Outcome

/-!
# What a list of controls decides

The evaluation of controls reads a list as two: its category rules and its time windows, each in the order
of the list. The category rules are asked first, down to the first that refuses; only if all of them let
the purchase through are the time windows asked, down to the first that refuses or cannot be read. How the
two are interleaved does not matter, and neither do reserved controls.
-/

namespace CardLedger

/-! ## The two lists -/

/-- The category rules among controls. -/
def categoryRules (controls : List ControlValue) : List CategoryRule :=
  controls.filterMap fun
    | .merchantCategory rule => some rule
    | _ => none

/-- The time windows among controls. -/
def timeRules (controls : List ControlValue) : List TimeRule :=
  controls.filterMap fun
    | .timeBased rule => some rule
    | _ => none

/-- A control of a type that is kept for later policies. -/
def ControlValue.IsReserved (v : ControlValue) : Prop :=
  v.type = .merchantName ∨ v.type = .location

variable {controls front back : List ControlValue} {v : ControlValue} {category : String}
  {now : LocalTime} {rule : TimeRule}

@[simp]
theorem categoryRules_append : categoryRules (front ++ back) = categoryRules front ++ categoryRules back :=
  List.filterMap_append

@[simp]
theorem timeRules_append : timeRules (front ++ back) = timeRules front ++ timeRules back :=
  List.filterMap_append

theorem categoryRules_cons_category (rule : CategoryRule) :
    categoryRules (.merchantCategory rule :: controls) = rule :: categoryRules controls := rfl

theorem timeRules_cons_time (rule : TimeRule) :
    timeRules (.timeBased rule :: controls) = rule :: timeRules controls := rfl

theorem rules_cons_of_isReserved (hReserved : v.IsReserved) :
    categoryRules (v :: controls) = categoryRules controls ∧
      timeRules (v :: controls) = timeRules controls := by
  cases v with
  | merchantCategory rule => exact absurd hReserved (by simp [ControlValue.IsReserved, ControlValue.type])
  | timeBased rule => exact absurd hReserved (by simp [ControlValue.IsReserved, ControlValue.type])
  | merchantName payload => exact ⟨rfl, rfl⟩
  | location payload => exact ⟨rfl, rfl⟩

theorem mem_categoryRules {rule : CategoryRule} :
    rule ∈ categoryRules controls ↔ ControlValue.merchantCategory rule ∈ controls := by
  induction controls with
  | nil => simp [categoryRules]
  | cons v rest ih =>
      cases v with
      | merchantCategory other => rw [categoryRules_cons_category]; simp [ih]
      | _ => exact ih.trans (by simp)

theorem mem_timeRules : rule ∈ timeRules controls ↔ ControlValue.timeBased rule ∈ controls := by
  induction controls with
  | nil => simp [timeRules]
  | cons v rest ih =>
      cases v with
      | timeBased other => rw [timeRules_cons_time]; simp [ih]
      | _ => exact ih.trans (by simp)

theorem filter_category : controls.filter (·.type == .merchantCategory) =
    (categoryRules controls).map .merchantCategory := by
  induction controls with
  | nil => rfl
  | cons v rest ih =>
      cases v with
      | merchantCategory rule => exact congrArg (ControlValue.merchantCategory rule :: ·) ih
      | _ => exact ih

theorem filter_time : controls.filter (·.type == .timeBased) = (timeRules controls).map .timeBased := by
  induction controls with
  | nil => rfl
  | cons v rest ih =>
      cases v with
      | timeBased rule => exact congrArg (ControlValue.timeBased rule :: ·) ih
      | _ => exact ih

/-! ## Controls asked one after the other -/

/-- Controls that let the purchase through leave the decision to those behind them. -/
theorem firstViolation_append_of_none (hFront : ∀ v ∈ front, v.refusal? category now = .ok none) :
    firstViolation category now (front ++ back) = firstViolation category now back := by
  induction front with
  | nil => rfl
  | cons v rest ih =>
      rw [List.cons_append, firstViolation, hFront v List.mem_cons_self]
      exact ih fun other hMem => hFront other (List.mem_cons_of_mem v hMem)

theorem firstViolation_eq_none_iff :
    firstViolation category now controls = .ok none ↔ ∀ v ∈ controls, v.refusal? category now = .ok none := by
  constructor
  · intro hNone
    induction controls with
    | nil => simp
    | cons v rest ih =>
        unfold firstViolation at hNone
        split at hNone
        · cases hNone
        · cases hNone
        · next hFirst => exact List.forall_mem_cons.mpr ⟨hFirst, ih hNone⟩
  · intro hAll
    have hSame : firstViolation category now (controls ++ []) = .ok none := firstViolation_append_of_none hAll
    rwa [List.append_nil] at hSame

/-- Behind controls that decide, those that let everything through do not count. -/
theorem firstViolation_append_nothing (hBack : ∀ v ∈ back, v.refusal? category now = .ok none) :
    firstViolation category now (front ++ back) = firstViolation category now front := by
  induction front with
  | nil => exact firstViolation_eq_none_iff.mpr hBack
  | cons v rest ih =>
      rw [List.cons_append, firstViolation, firstViolation]
      split
      · rfl
      · rfl
      · exact ih

/-- The category rules and then the time windows decide. -/
theorem evaluateControls_eq : evaluateControls controls category now =
    firstViolation category now
      ((categoryRules controls).map .merchantCategory ++ (timeRules controls).map .timeBased) := by
  have hOrder : policyOrder controls =
      ((categoryRules controls).map .merchantCategory ++ (timeRules controls).map .timeBased) ++
        (controls.filter (·.type == .merchantName) ++ controls.filter (·.type == .location)) := by
    rw [← filter_category, ← filter_time]
    simp [policyOrder, ControlType.all]
  unfold evaluateControls
  rw [hOrder, firstViolation_append_nothing]
  intro v hMem
  rcases List.mem_append.mp hMem with hName | hLocation
  · obtain ⟨-, hType⟩ := List.mem_filter.mp hName
    cases v with
    | merchantName payload => rfl
    | _ => cases hType
  · obtain ⟨-, hType⟩ := List.mem_filter.mp hLocation
    cases v with
    | location payload => rfl
    | _ => cases hType

theorem ControlValue.validate_timeBased (rule : TimeRule) : (ControlValue.timeBased rule).validate =
    TimeOfDay.minutes rule.opening >>= fun _ => TimeOfDay.minutes rule.closing >>= fun _ => .ok () := rfl

/-- A time window fails whenever it is asked if it cannot be read, over the fault that its check tells. -/
theorem TimeRule.refusal?_eq_error_iff {fault : ControlFault} :
    rule.refusal? now = .error fault ↔ (ControlValue.timeBased rule).validate = .error fault := by
  rw [ControlValue.validate_timeBased]
  unfold TimeRule.refusal?
  cases TimeOfDay.minutes rule.opening with
  | error opening => rw [error_bind, error_bind, Except.error.injEq, Except.error.injEq]
  | ok opening =>
      cases TimeOfDay.minutes rule.closing with
      | error closing =>
          rw [ok_bind, ok_bind, error_bind, error_bind, Except.error.injEq, Except.error.injEq]
      | ok closing =>
          rw [ok_bind, ok_bind, ok_bind, ok_bind]
          split
          · simp
          · simp

/-! ## The rule of decision -/

/-- What is decided about a purchase: the first category rule that refuses it decides, whatever the time
windows say. If there is none, the first time window decides that cannot be read or that refuses the time.
If there is no such window either, the purchase is let through. -/
inductive Decides (controls : List ControlValue) (category : String) (now : LocalTime) :
    Except ControlFault (Option Violation) → Prop where
  | categoryRefuses (before : List ControlValue) (rule : CategoryRule) (after : List ControlValue)
      (reason : String) (hSplit : controls = before ++ .merchantCategory rule :: after)
      (hBefore : ∀ earlier ∈ categoryRules before, earlier.refusal? category = none)
      (hRefused : rule.refusal? category = some reason) :
      Decides controls category now (.ok (some ⟨.merchantCategory, reason⟩))
  | windowMalformed (before : List ControlValue) (rule : TimeRule) (after : List ControlValue)
      (fault : ControlFault) (hSplit : controls = before ++ .timeBased rule :: after)
      (hCategories : ∀ other ∈ categoryRules controls, other.refusal? category = none)
      (hBefore : ∀ earlier ∈ timeRules before, earlier.refusal? now = .ok none)
      (hMalformed : (ControlValue.timeBased rule).validate = .error fault) :
      Decides controls category now (.error fault)
  | windowRefuses (before : List ControlValue) (rule : TimeRule) (after : List ControlValue)
      (reason : String) (hSplit : controls = before ++ .timeBased rule :: after)
      (hCategories : ∀ other ∈ categoryRules controls, other.refusal? category = none)
      (hBefore : ∀ earlier ∈ timeRules before, earlier.refusal? now = .ok none)
      (hRefused : rule.refusal? now = .ok (some reason)) :
      Decides controls category now (.ok (some ⟨.timeBased, reason⟩))
  | allPermit (hCategories : ∀ rule ∈ categoryRules controls, rule.refusal? category = none)
      (hWindows : ∀ rule ∈ timeRules controls, rule.refusal? now = .ok none) :
      Decides controls category now (.ok none)

variable {outcome : Except ControlFault (Option Violation)}

theorem refusal?_categories {rules : List CategoryRule}
    (hPermit : ∀ rule ∈ rules, rule.refusal? category = none) :
    ∀ v ∈ rules.map ControlValue.merchantCategory, v.refusal? category now = .ok none := by
  intro v hMem
  obtain ⟨rule, hRule, rfl⟩ := List.mem_map.mp hMem
  exact congrArg Except.ok (hPermit rule hRule)

theorem refusal?_windows {rules : List TimeRule} (hPermit : ∀ rule ∈ rules, rule.refusal? now = .ok none) :
    ∀ v ∈ rules.map ControlValue.timeBased, v.refusal? category now = .ok none := by
  intro v hMem
  obtain ⟨rule, hRule, rfl⟩ := List.mem_map.mp hMem
  exact hPermit rule hRule

/-- Behind category rules and windows that permit, it is up to the next window. -/
theorem evaluateControls_of_window (hSplit : controls = front ++ .timeBased rule :: back)
    (hCategories : ∀ other ∈ categoryRules controls, other.refusal? category = none)
    (hFront : ∀ earlier ∈ timeRules front, earlier.refusal? now = .ok none) :
    evaluateControls controls category now =
      firstViolation category now (.timeBased rule :: (timeRules back).map .timeBased) := by
  rw [evaluateControls_eq, firstViolation_append_of_none (refusal?_categories hCategories), hSplit,
    timeRules_append, timeRules_cons_time, List.map_append, List.map_cons,
    firstViolation_append_of_none (refusal?_windows hFront)]

theorem evaluateControls_of_decides (hDecides : Decides controls category now outcome) :
    evaluateControls controls category now = outcome := by
  cases hDecides with
  | categoryRefuses before rule after reason hSplit hBefore hRefused =>
      rw [evaluateControls_eq, hSplit, categoryRules_append, categoryRules_cons_category, List.map_append,
        List.map_cons, List.append_assoc, List.cons_append,
        firstViolation_append_of_none (refusal?_categories hBefore), firstViolation,
        ControlValue.refusal?, hRefused]
      rfl
  | windowMalformed before rule after fault hSplit hCategories hBefore hMalformed =>
      rw [evaluateControls_of_window hSplit hCategories hBefore, firstViolation, ControlValue.refusal?,
        TimeRule.refusal?_eq_error_iff.mpr hMalformed]
  | windowRefuses before rule after reason hSplit hCategories hBefore hRefused =>
      rw [evaluateControls_of_window hSplit hCategories hBefore, firstViolation, ControlValue.refusal?,
        hRefused]
      rfl
  | allPermit hCategories hWindows =>
      rw [evaluateControls_eq, firstViolation_append_of_none (refusal?_categories hCategories)]
      exact firstViolation_eq_none_iff.mpr (refusal?_windows hWindows)

theorem forall_or_first {α : Type} (items : List α) (Permits : α → Prop) :
    (∀ x ∈ items, Permits x) ∨
      ∃ before x after, items = before ++ x :: after ∧ (∀ y ∈ before, Permits y) ∧ ¬ Permits x := by
  induction items with
  | nil => exact .inl (by simp)
  | cons first rest ih =>
      by_cases hFirst : Permits first
      · rcases ih with hAll | ⟨before, x, after, rfl, hBefore, hFound⟩
        · exact .inl (List.forall_mem_cons.mpr ⟨hFirst, hAll⟩)
        · exact .inr ⟨first :: before, x, after, rfl, List.forall_mem_cons.mpr ⟨hFirst, hBefore⟩, hFound⟩
      · exact .inr ⟨[], first, rest, rfl, by simp, hFirst⟩

/-- The rule decides about every purchase. -/
theorem exists_decides (controls : List ControlValue) (category : String) (now : LocalTime) :
    ∃ outcome, Decides controls category now outcome := by
  rcases forall_or_first controls fun v =>
      ∀ rule, v = .merchantCategory rule → rule.refusal? category = none with
    hPermit | ⟨before, v, after, hSplit, hBefore, hRefuses⟩
  · have hCategories : ∀ rule ∈ categoryRules controls, rule.refusal? category = none :=
      fun rule hRule => hPermit _ (mem_categoryRules.mp hRule) rule rfl
    rcases forall_or_first controls fun v => ∀ rule, v = .timeBased rule → rule.refusal? now = .ok none with
      hOpen | ⟨before, v, after, hSplit, hBefore, hRefuses⟩
    · exact ⟨_, .allPermit hCategories fun rule hRule => hOpen _ (mem_timeRules.mp hRule) rule rfl⟩
    · obtain ⟨rule, rfl, hClosed⟩ : ∃ rule, v = .timeBased rule ∧ ¬ rule.refusal? now = .ok none := by
        simpa using hRefuses
      have hEarlier : ∀ earlier ∈ timeRules before, earlier.refusal? now = .ok none :=
        fun earlier hMem => hBefore _ (mem_timeRules.mp hMem) earlier rfl
      match hSays : rule.refusal? now with
      | .error fault =>
          exact ⟨_, .windowMalformed before rule after fault hSplit hCategories hEarlier
            (TimeRule.refusal?_eq_error_iff.mp hSays)⟩
      | .ok (some reason) =>
          exact ⟨_, .windowRefuses before rule after reason hSplit hCategories hEarlier hSays⟩
      | .ok none => exact absurd hSays hClosed
  · obtain ⟨rule, rfl, hRefused⟩ : ∃ rule, v = .merchantCategory rule ∧ ¬ rule.refusal? category = none := by
      simpa using hRefuses
    obtain ⟨reason, hReason⟩ := Option.ne_none_iff_exists'.mp hRefused
    exact ⟨_, .categoryRefuses before rule after reason hSplit
      (fun earlier hMem => hBefore _ (mem_categoryRules.mp hMem) earlier rfl) hReason⟩

/-- Controls are evaluated to exactly what the rule of decision says. In particular a purchase is let
through only if every category rule and every time window by itself permits it; a reserved control may
stand anywhere or be left out; and category rules and time windows may be interleaved in any way. -/
theorem evaluation_is_decision (controls : List ControlValue) (category : String) (now : LocalTime) :
    (∀ outcome, evaluateControls controls category now = outcome ↔
        Decides controls category now outcome) ∧
      (evaluateControls controls category now = .ok none ↔
        (∀ rule, .merchantCategory rule ∈ controls → rule.refusal? category = none) ∧
          ∀ rule, .timeBased rule ∈ controls → rule.refusal? now = .ok none) ∧
      (∀ before v after, controls = before ++ v :: after → v.IsReserved →
        evaluateControls (before ++ after) category now = evaluateControls controls category now) ∧
      ∀ others, categoryRules others = categoryRules controls → timeRules others = timeRules controls →
        evaluateControls others category now = evaluateControls controls category now := by
  refine ⟨fun outcome => ⟨?_, evaluateControls_of_decides⟩, ?_, ?_, ?_⟩
  · rintro rfl
    obtain ⟨outcome, hDecides⟩ := exists_decides controls category now
    rwa [evaluateControls_of_decides hDecides]
  · rw [evaluateControls_eq, firstViolation_eq_none_iff]
    simp only [List.forall_mem_append, List.forall_mem_map, mem_categoryRules, mem_timeRules,
      ControlValue.refusal?, Except.ok.injEq]
  · rintro before v after rfl hReserved
    obtain ⟨hCategories, hTimes⟩ : categoryRules (v :: after) = categoryRules after ∧
        timeRules (v :: after) = timeRules after := rules_cons_of_isReserved hReserved
    rw [evaluateControls_eq, evaluateControls_eq, categoryRules_append, timeRules_append,
      categoryRules_append, timeRules_append, hCategories, hTimes]
  · intro others hCategories hTimes
    rw [evaluateControls_eq, evaluateControls_eq, hCategories, hTimes]

/-- A window that cannot be read stands in front of a rule that refuses gambling: gambling is refused all
the same, and a purchase of food fails over the window. So it is without the reserved control, and with the
rule in front. -/
theorem evaluation_is_decision_of_mixed :
    let night : ControlValue := .timeBased ⟨"25:00", "18:00"⟩
    let morning : ControlValue := .timeBased ⟨"09:00", "10:00"⟩
    let sober : ControlValue := .merchantCategory ⟨[], ["gambling"]⟩
    let controls := [night, .location (.record []), sober, morning]
    let noon : LocalTime := ⟨12, 0, 0⟩
    Decides controls "Gambling " noon (.ok (some ⟨.merchantCategory,
        "Transaction blocked: merchant category 'gambling' is not allowed"⟩)) ∧
      Decides controls "food" noon (.error (.wrongTime "25:00" .hour)) ∧
      evaluateControls [night, sober, morning] "food" noon = .error (.wrongTime "25:00" .hour) ∧
      evaluateControls [sober, night, morning] "food" noon = .error (.wrongTime "25:00" .hour) := by
  intro night morning sober controls noon
  obtain ⟨hGambling, -⟩ := evaluation_is_decision controls "Gambling " noon
  obtain ⟨hFood, -, hReserved, hInterleaved⟩ := evaluation_is_decision controls "food" noon
  have hFails : evaluateControls controls "food" noon = .error (.wrongTime "25:00" .hour) := rfl
  refine ⟨(hGambling _).mp rfl, (hFood _).mp hFails, ?_, ?_⟩
  · exact (hReserved [night] (.location (.record [])) [sober, morning] rfl (.inr rfl)).trans hFails
  · exact (hInterleaved [sober, night, morning] rfl rfl).trans hFails

end CardLedger
