import CardLedger.Proofs.Administration
import CardLedger.Settings.Reader

/-!
# How issuance can fail

What queueing and issuing tell when they fail although the tables do not. An active company with
employees to queue fails over an e-mail address that is blank, and one with rows to issue fails over an
expiry that the calendar does not hold. Everything else is looked at before the first row is written.
-/

namespace CardLedger

/-- Controls that have passed the check one after the other have all passed it. -/
theorem validate_of_checkControls {controls : List ControlValue} {u : Unit}
    (hControls : checkControls controls = .ok u) : ∀ v ∈ controls, v.validate = .ok () := by
  induction controls with
  | nil => simp
  | cons control rest ih =>
      obtain ⟨_, hFirst, hRest⟩ := bind_eq_ok_iff.mp hControls
      intro v hMem
      rcases List.mem_cons.mp hMem with rfl | hLater
      · exact liftFault_eq_ok_iff.mp hFirst
      · exact ih hRest v hLater

/-- The settings of a text have passed the check. -/
theorem Settings.validate_of_parse {text : String} {settings : Settings}
    (hParse : Settings.parse text = .ok settings) : settings.validate = .ok () := by
  unfold Settings.parse at hParse
  split at hParse
  · cases hParse
  · obtain ⟨_, hValid, hResult⟩ := bind_eq_ok_iff.mp hParse
    cases hResult
    exact hValid

theorem Settings.checkControls_of_validate {settings : Settings} (hValid : settings.validate = .ok ()) :
    checkControls settings.issuance.defaultControls = .ok () := by
  obtain ⟨_, -, hRest⟩ := bind_eq_ok_iff.mp hValid
  obtain ⟨_, -, hRest⟩ := bind_eq_ok_iff.mp hRest
  obtain ⟨_, -, hRest⟩ := bind_eq_ok_iff.mp hRest
  obtain ⟨_, -, hControls⟩ := bind_eq_ok_iff.mp hRest
  exact hControls

theorem expiryAfter_eq_error {now : Instant} {years : Nat} {e : Error}
    (hFails : expiryAfter now years = .error e) :
    now.addMonths? (validityMonths years) = none ∧ e = .config (.validityOverflow years) := by
  unfold expiryAfter at hFails
  cases hExpiry : now.addMonths? (validityMonths years) with
  | some expiry =>
      rw [hExpiry] at hFails
      cases hFails
  | none =>
      rw [hExpiry] at hFails
      cases hFails
      exact ⟨rfl, rfl⟩

/-- A rule of the tables fails for them, or else what comes after it fails. -/
theorem isOfTables_of_unless {α : Type} {c : Prop} [Decidable c] {text : String} {x : Except Error α}
    {e : Error} (hFails : (if c then .error (.database text) else x) = .error e) :
    e.IsOfTables ∨ x = .error e := by
  by_cases hBroken : c
  · rw [if_pos hBroken] at hFails
    cases hFails
    exact .inl ⟨text, rfl⟩
  · rw [if_neg hBroken] at hFails
    exact .inr hFails

namespace Store

variable {s : Store} {a : Ambient} {company card id : Uuid} {e : Error}

/-! ## The queue -/

theorem insertQueueRow_eq_error {r : QueueRow} (hFails : s.insertQueueRow r = .error e) :
    e.IsOfTables := by
  rcases isOfTables_of_unless hFails with hDuplicate | hRest
  · exact hDuplicate
  · rcases isOfTables_of_unless hRest with hDangling | hDone
    · exact hDangling
    · cases hDone

theorem insertQueueRows_eq_error {rows : List QueueRow} (hFails : s.insertQueueRows rows = .error e) :
    e.IsOfTables := by
  induction rows generalizing s with
  | nil => cases hFails
  | cons r rest ih =>
      rcases bind_eq_error_iff.mp hFails with hFirst | ⟨next, -, hRest⟩
      · exact insertQueueRow_eq_error hFirst
      · exact ih hRest

/-- Queueing somebody for an active company fails over the first e-mail address that is blank. -/
theorem enqueue_eq_error {employees : List EmployeeRecord} (hSomebody : employees ≠ [])
    (hActive : s.IsActive company) (hTables : ¬ e.IsOfTables)
    (hFails : s.enqueue a company employees = .error e) :
    ∃ position, firstBlankEmail? employees = some position ∧
      e = .invalidInput (.employeeEmail position) := by
  have hChecked : s.checkActive company = .ok () := checkActive_eq_ok_iff.mpr hActive
  unfold enqueue at hFails
  rw [if_neg (by simpa using hSomebody)] at hFails
  cases hBlank : firstBlankEmail? employees with
  | some position =>
      rw [hBlank] at hFails
      cases hFails
      exact ⟨position, rfl, rfl⟩
  | none =>
      rw [hBlank] at hFails
      dsimp only at hFails
      rw [ok_bind, hChecked, ok_bind] at hFails
      rcases bind_eq_error_iff.mp hFails with hInsert | ⟨next, -, hResult⟩
      · exact absurd (insertQueueRows_eq_error hInsert) hTables
      · cases hResult

/-- What was queued has no blank e-mail address. -/
theorem firstBlankEmail?_of_enqueue {employees : List EmployeeRecord} {result : List QueueRow × Store}
    (hEnqueue : s.enqueue a company employees = .ok result) : firstBlankEmail? employees = none := by
  obtain ⟨-, hRest⟩ := unless_eq_ok_iff.mp hEnqueue
  cases hBlank : firstBlankEmail? employees with
  | none => rfl
  | some position =>
      rw [hBlank] at hRest
      cases hRest

/-! ## Cards and their controls -/

theorem insertCard_eq_error {c : Card} (hFails : s.insertCard c = .error e) : e.IsOfTables := by
  rcases isOfTables_of_unless hFails with hDuplicate | hRest
  · exact hDuplicate
  · rcases isOfTables_of_unless hRest with hDangling | hRest
    · exact hDangling
    · rcases isOfTables_of_unless hRest with hNoNumber | hDone
      · exact hNoNumber
      · cases hDone

theorem insertControl_eq_error {r : ControlRow} (hFails : s.insertControl r = .error e) :
    e.IsOfTables := by
  rcases isOfTables_of_unless hFails with hDuplicate | hRest
  · exact hDuplicate
  · rcases isOfTables_of_unless hRest with hDangling | hDone
    · exact hDangling
    · cases hDone

theorem writtenPayload_eq_error {v : ControlValue} (hFails : a.writtenPayload v = .error e) :
    e.IsOfTables := by
  unfold Ambient.writtenPayload at hFails
  split at hFails
  · cases hFails
  · cases hFails
    exact ⟨_, rfl⟩

/-- A control that has passed the check is written unless the tables fail. -/
theorem putControl_eq_error {v : ControlValue} (hValid : v.validate = .ok ())
    (hFails : s.putControl a id card v = .error e) : e.IsOfTables := by
  unfold putControl at hFails
  rw [hValid, liftFault_ok, ok_bind] at hFails
  rcases bind_eq_error_iff.mp hFails with hColumn | ⟨payload, -, hRest⟩
  · exact writtenPayload_eq_error hColumn
  · split at hRest
    · cases hRest
    · rcases bind_eq_error_iff.mp hRest with hInsert | ⟨next, -, hResult⟩
      · exact insertControl_eq_error hInsert
      · cases hResult

theorem putControls_eq_error {controls : List ControlValue} {first : Nat}
    (hValid : ∀ v ∈ controls, v.validate = .ok ())
    (hFails : s.putControls a card first controls = .error e) : e.IsOfTables := by
  induction controls generalizing s first with
  | nil => cases hFails
  | cons control rest ih =>
      rcases bind_eq_error_iff.mp hFails with hFirst | ⟨put, -, hRest⟩
      · exact putControl_eq_error (hValid control List.mem_cons_self) hFirst
      · exact ih (fun v hMem => hValid v (List.mem_cons_of_mem control hMem)) hRest

theorem issueRows_eq_error {controls : List ControlValue} {expiry : Instant} {index : Nat}
    {rows : List QueueRow} (hValid : ∀ v ∈ controls, v.validate = .ok ())
    (hFails : s.issueRows a controls expiry index rows = .error e) : e.IsOfTables := by
  induction rows generalizing s index with
  | nil => cases hFails
  | cons r rest ih =>
      rcases bind_eq_error_iff.mp hFails with hInsert | ⟨inserted, -, hRest⟩
      · exact insertCard_eq_error hInsert
      · rcases bind_eq_error_iff.mp hRest with hPut | ⟨controlled, -, hRest⟩
        · exact putControls_eq_error hValid hPut
        · rcases bind_eq_error_iff.mp hRest with hLater | ⟨later, -, hResult⟩
          · exact ih hLater
          · cases hResult

/-- Issuing the pending rows of an active company fails over an expiry outside the calendar. -/
theorem issue_eq_error {settings : IssuanceSettings} (hActive : s.IsActive company)
    (hControls : checkControls settings.defaultControls = .ok ()) (hPending : s.pending company ≠ [])
    (hTables : ¬ e.IsOfTables) (hFails : s.issue a settings company = .error e) :
    a.now.addMonths? (validityMonths settings.validityYears) = none ∧
      e = .config (.validityOverflow settings.validityYears) := by
  have hChecked : s.checkActive company = .ok () := checkActive_eq_ok_iff.mpr hActive
  unfold issue at hFails
  rw [hChecked, ok_bind, hControls, ok_bind] at hFails
  dsimp only at hFails
  rw [if_neg (by simpa using hPending)] at hFails
  rcases bind_eq_error_iff.mp hFails with hExpiry | ⟨expiry, -, hRest⟩
  · exact expiryAfter_eq_error hExpiry
  · rcases bind_eq_error_iff.mp hRest with hRows | ⟨later, -, hResult⟩
    · exact absurd (issueRows_eq_error (validate_of_checkControls hControls) hRows) hTables
    · cases hResult

end Store

end CardLedger
