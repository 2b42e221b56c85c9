import CardLedger.Control.Policy
import CardLedger.Proofs.ControlMap
import CardLedger.Proofs.Footprint
import CardLedger.Proofs.WellFormed

/-!
# Controls that the ledger has written

A control is checked before it is written. As far as controls are written by the operations of the
ledger alone, what is stored can therefore be decoded, has passed the check, and decides about every
purchase: a time window that was accepted when it was written can be read when it is asked.
-/

namespace CardLedger

/-- A time window that has passed the check tells at every time of day whether it is open. -/
theorem TimeRule.exists_refusal {rule : TimeRule} (hValid : (ControlValue.timeBased rule).validate = .ok ())
    (time : LocalTime) : ∃ refusal, rule.refusal? time = .ok refusal := by
  obtain ⟨opening, hOpening, hRest⟩ := bind_eq_ok_iff.mp hValid
  obtain ⟨closing, hClosing, -⟩ := bind_eq_ok_iff.mp hRest
  unfold TimeRule.refusal?
  rw [hOpening, hClosing, ok_bind, ok_bind]
  split
  · exact ⟨_, rfl⟩
  · exact ⟨_, rfl⟩

/-- A control that has passed the check lets a purchase through or refuses it. -/
theorem ControlValue.exists_refusal {v : ControlValue} (hValid : v.validate = .ok ()) (category : String)
    (time : LocalTime) : ∃ refusal, v.refusal? category time = .ok refusal := by
  cases v with
  | merchantCategory rule => exact ⟨_, rfl⟩
  | timeBased rule => exact TimeRule.exists_refusal hValid time
  | merchantName payload => exact ⟨_, rfl⟩
  | location payload => exact ⟨_, rfl⟩

/-- A row that holds a control which has passed the check. -/
def ControlRow.IsChecked (r : ControlRow) : Prop :=
  ∃ v, ControlValue.ofStored r.type r.payload = .ok v ∧ v.validate = .ok ()

namespace Store

/-- All controls have passed the check. -/
def ControlsChecked (s : Store) : Prop :=
  ∀ r ∈ s.controls, r.IsChecked

variable {s next : Store} {a : Ambient} {company card id : Uuid} {v : ControlValue}

theorem validate_of_putControl {result : ControlRow × Store}
    (hPut : s.putControl a id card v = .ok result) : v.validate = .ok () := by
  obtain ⟨_, hValid, -⟩ := bind_eq_ok_iff.mp hPut
  exact liftFault_eq_ok_iff.mp hValid

namespace ControlsChecked

theorem empty : ControlsChecked {} := by
  intro r hMem
  cases hMem

theorem of_eq (hChecked : s.ControlsChecked) (hSame : next.controls = s.controls) :
    next.ControlsChecked := by
  unfold ControlsChecked
  rw [hSame]
  exact hChecked

/-- A new row holds the control that was checked, and so does the active row of its type. -/
theorem putControl {row : ControlRow} (hChecked : s.ControlsChecked) (hKeeps : a.KeepsPayload v)
    (hPut : s.putControl a id card v = .ok (row, next)) : next.ControlsChecked := by
  have hValid := validate_of_putControl hPut
  have hStored := ControlValue.ofStored_toPayload v
  obtain ⟨payload, hColumn, hCases⟩ := putControl_cases hPut
  obtain rfl : payload = v.toPayload := Option.some.inj (hColumn.symm.trans hKeeps)
  rcases hCases with ⟨old, hActive, rfl, rfl⟩ | ⟨-, rfl, -, -, rfl⟩
  · obtain ⟨-, hOf⟩ := mem_of_activeControl? hActive
    simp only [ControlRow.isActiveOf, Bool.and_eq_true, beq_iff_eq] at hOf
    intro r hMem
    obtain ⟨earlier, hEarlier, rfl⟩ := List.mem_map.mp hMem
    split
    · exact ⟨v, by rw [hOf.1.2]; exact hStored, hValid⟩
    · exact hChecked earlier hEarlier
  · intro r hMem
    rcases List.mem_append.mp hMem with hOld | hNew
    · exact hChecked r hOld
    · rw [List.mem_singleton.mp hNew]
      exact ⟨v, hStored, hValid⟩

theorem putControls {controls : List ControlValue} {first : Nat} (hChecked : s.ControlsChecked)
    (hKeeps : ∀ v ∈ controls, a.KeepsPayload v)
    (hPut : s.putControls a card first controls = .ok next) : next.ControlsChecked := by
  induction controls generalizing s first with
  | nil =>
      cases hPut
      exact hChecked
  | cons control rest ih =>
      obtain ⟨put, hFirst, hRest⟩ := bind_eq_ok_iff.mp hPut
      obtain ⟨hControl, hLater⟩ := List.forall_mem_cons.mp hKeeps
      exact ih (hChecked.putControl hControl hFirst) hLater hRest

theorem issueRows {controls : List ControlValue} {expiry : Instant} {index : Nat}
    {rows : List QueueRow} {result : List Card × Store} (hChecked : s.ControlsChecked)
    (hKeeps : ∀ v ∈ controls, a.KeepsPayload v)
    (hIssue : s.issueRows a controls expiry index rows = .ok result) : result.2.ControlsChecked := by
  induction rows generalizing s index result with
  | nil =>
      cases hIssue
      exact hChecked
  | cons r rest ih =>
      obtain ⟨draw, cvv, inserted, controlled, later, hInsert, hPut, hLater, rfl⟩ :=
        issueRows_cons_eq_ok hIssue
      have hInserted : inserted.ControlsChecked :=
        hChecked.of_eq (by rw [(insertCard_eq_ok hInsert).1])
      have hRows := ih (hInserted.putControls hKeeps hPut) hLater
      exact hRows

theorem issue {settings : IssuanceSettings} {result : List Card × Store} (hChecked : s.ControlsChecked)
    (hKeeps : ∀ v ∈ settings.defaultControls, a.KeepsPayload v)
    (hIssue : s.issue a settings company = .ok result) : result.2.ControlsChecked := by
  obtain ⟨-, expiry, later, hRows, rfl⟩ := issue_issuesRows hIssue
  exact (hChecked.issueRows hKeeps hRows).of_eq rfl

theorem upsertControl {result : ControlRow × Store} (hChecked : s.ControlsChecked)
    (hKeeps : a.KeepsPayload v) (hUpsert : s.upsertControl a company card v = .ok result) :
    result.2.ControlsChecked := by
  obtain ⟨_, -, hRest⟩ := bind_eq_ok_iff.mp hUpsert
  obtain ⟨_, -, hPut⟩ := bind_eq_ok_iff.mp hRest
  exact hChecked.putControl hKeeps hPut

theorem deactivateControl {kind : ControlType} {result : Bool × Store} (hChecked : s.ControlsChecked)
    (hDeactivate : s.deactivateControl a company card kind = .ok result) :
    result.2.ControlsChecked := by
  obtain ⟨_, -, hResult⟩ := bind_eq_ok_iff.mp hDeactivate
  cases hResult
  intro r hMem
  obtain ⟨earlier, hEarlier, rfl⟩ := List.mem_map.mp hMem
  -- a row that is switched off keeps its type and its payload
  split
  · exact hChecked earlier hEarlier
  · exact hChecked earlier hEarlier

theorem of_apply {operation : Operation} (hChecked : s.ControlsChecked) (hKeyed : s.CardsKeyed)
    (hKeeps : ∀ v ∈ operation.controls, a.KeepsPayload v)
    (hAlone : a.interference.balanceAfterRecord = none) (hApply : operation.apply s a = .ok next) :
    next.ControlsChecked := by
  by_cases hOnCard : operation.isOnCard = true
  · exact hChecked.of_eq (cardsUsed_of_apply hOnCard hKeyed hAlone hApply).controls
  unfold Operation.apply at hApply
  cases operation with
  | registerCompany new =>
      obtain ⟨result, hRun, rfl⟩ := map_eq_ok_iff.mp hApply
      exact hChecked.of_eq (by rw [registerCompany_eq_ok hRun])
  | setCompanyStatus company status =>
      obtain ⟨result, hRun, rfl⟩ := map_eq_ok_iff.mp hApply
      exact hChecked.of_eq (by rw [setCompanyStatus_eq_ok hRun])
  | enqueue company employees =>
      obtain ⟨result, hRun, rfl⟩ := map_eq_ok_iff.mp hApply
      exact hChecked.of_eq (by rw [(enqueue_eq_ok hRun).2.2])
  | issue settings company =>
      obtain ⟨result, hRun, rfl⟩ := map_eq_ok_iff.mp hApply
      exact hChecked.issue hKeeps hRun
  | upsertControl company card control =>
      obtain ⟨result, hRun, rfl⟩ := map_eq_ok_iff.mp hApply
      exact hChecked.upsertControl (hKeeps control (List.mem_singleton_self control)) hRun
  | deactivateControl company card kind =>
      obtain ⟨result, hRun, rfl⟩ := map_eq_ok_iff.mp hApply
      exact hChecked.deactivateControl hRun
  | fundCard | setSpendingLimit | setPeriodLimits | blockCard | authorize => exact absurd rfl hOnCard

end ControlsChecked

/-- The controls that a run of the workflow leaves behind have all passed the check, as far as columns
give payloads back as they were written. -/
theorem controlsChecked_run {calls : List Call} (hKeeps : ∀ call ∈ calls, call.KeepsPayloads) :
    (Store.run {} calls).ControlsChecked := by
  have hBoth : (Store.run {} calls).WellFormed ∧ (Store.run {} calls).ControlsChecked := by
    refine run_preserves_of_forall (P := fun s => s.WellFormed ∧ s.ControlsChecked) ?_
      ⟨WellFormed.empty, ControlsChecked.empty⟩ hKeeps
    rintro old next call ⟨hWell, hChecked⟩ hCall hApply
    exact ⟨hWell.of_apply hApply, hChecked.of_apply hWell.cardsKeyed hCall call.alone hApply⟩
  exact hBoth.2

end Store

end CardLedger
