import CardLedger.Proofs.ControlTable
import CardLedger.Proofs.Footprint
import CardLedger.Proofs.Reconciliation
import CardLedger.Proofs.TimestampOrder
import CardLedger.Proofs.WellFormed

/-!
# The table of controls refines a map

The three operations that write controls do to the table what setting and removing do to a map, and all
others leave it alone. Hence after every run the table shows the map that the calls of the run make, and
what the ledger tells of the controls of a card is what the map has for it.

Payloads are kept in a column of texts. The map is shown as far as the column gives the payloads of a run
back as they were written; that rows keep their places, and that at most one of a card and a type is active,
does not depend on it.
-/

namespace CardLedger

/-! ## What operations do to the map -/

/-- The map after an operation, given what the operation gave: one that failed leaves the map alone. -/
def ControlMap.upon {α : Type} (m : ControlMap) (outcome : Except Error (α × Store))
    (change : α → ControlMap) : ControlMap :=
  match outcome with
  | .ok (result, _) => change result
  | .error _ => m

/-- What an operation does to the map of controls: it sets, it removes, or it does nothing. New cards
get the default controls of their issue one after the other. -/
def Operation.onControls (s : Store) (a : Ambient) (m : ControlMap) : Operation → ControlMap
  | upsertControl company card v =>
      m.upon (s.upsertControl a company card v) fun _ => m.set a.now card v
  | deactivateControl company card kind =>
      m.upon (s.deactivateControl a company card kind) fun _ => m.erase card kind
  | issue settings company =>
      m.upon (s.issue a settings company) fun issued =>
        issued.foldl (fun m c => m.setAll a.now c.id settings.defaultControls) m
  | registerCompany .. | setCompanyStatus .. | enqueue .. | fundCard .. | setSpendingLimit ..
  | setPeriodLimits .. | blockCard .. | authorize .. => m

/-- The map of controls after a run of calls. -/
def ControlMap.after (m : ControlMap) (s : Store) : List Call → ControlMap
  | [] => m
  | call :: rest =>
      (call.operation.onControls s call.ambient m).after (s.after call) rest

namespace Store

variable {s next : Store} {a : Ambient} {fresh card company : Uuid} {v : ControlValue}
  {row : ControlRow} {m : ControlMap} {kind : ControlType}

/-! ## Setting one control -/

theorem isNone_of_activeControl? (hShown : m.ShownBy s.controls)
    (hNone : s.activeControl? card kind = none) : m card kind = none := by
  rw [← hShown.find?_eq]
  exact congrArg (Option.bind · ControlRow.entry?) hNone

theorem putControl_shows (hShown : m.ShownBy s.controls) (hKeeps : a.KeepsPayload v)
    (hPut : s.putControl a fresh card v = .ok (row, next)) : (m.set a.now card v).ShownBy next.controls := by
  obtain ⟨payload, hColumn, hCases⟩ := putControl_cases hPut
  obtain rfl : payload = v.toPayload := Option.some.inj (hColumn.symm.trans hKeeps)
  rcases hCases with ⟨old, hActive, rfl, hNext⟩ | ⟨hNone, rfl, hFresh, -, hNext⟩
  · obtain ⟨hMem, hOwn⟩ := mem_of_activeControl? hActive
    rw [hNext]
    exact hShown.overwrite hMem hOwn
  · rw [hNext]
    exact hShown.append (isNone_of_activeControl? hShown hNone) hFresh
      (ControlRow.isActiveOf_iff.mpr ⟨rfl, rfl, rfl⟩) rfl rfl

/-- Whatever the column makes of the payload, setting a control is a step of the table. -/
theorem putControl_step (hWell : s.WellFormed) (hPut : s.putControl a fresh card v = .ok (row, next)) :
    ControlStep s.controls next.controls := by
  obtain ⟨payload, -, ⟨old, hActive, rfl, hNext⟩ | ⟨hNone, rfl, -, -, hNext⟩⟩ := putControl_cases hPut
  · obtain ⟨hMem, hOwn⟩ := mem_of_activeControl? hActive
    rw [hNext]
    exact .changed _ (ControlRow.kept_overwritten hWell.controlsKeyed hMem
      (ControlRow.isActiveOf_iff.mp hOwn).2.2 payload)
  · rw [hNext]
    refine .added _ fun r hMem hCard hType => ?_
    -- an active row of this card and type would have been found
    have hNot := List.find?_eq_none.mp hNone r hMem
    exact Bool.eq_false_of_not_eq_true fun hActive =>
      hNot (ControlRow.isActiveOf_iff.mpr ⟨hCard, hType, hActive⟩)

theorem upsertControl_put (hUpsert : s.upsertControl a company card v = .ok (row, next)) :
    s.putControl a (a.freshId 0) card v = .ok (row, next) := by
  obtain ⟨_, -, hRest⟩ := bind_eq_ok_iff.mp hUpsert
  obtain ⟨_, -, hPut⟩ := bind_eq_ok_iff.mp hRest
  exact hPut

/-! ## Setting the controls of new cards -/

theorem putControls_shows {first : Nat} {controls : List ControlValue} (hShown : m.ShownBy s.controls)
    (hKeeps : ∀ v ∈ controls, a.KeepsPayload v) (hPut : s.putControls a card first controls = .ok next) :
    (m.setAll a.now card controls).ShownBy next.controls := by
  induction controls generalizing s m first with
  | nil =>
      cases hPut
      exact hShown
  | cons v rest ih =>
      obtain ⟨⟨row, put⟩, hFirst, hRest⟩ := bind_eq_ok_iff.mp hPut
      obtain ⟨hControl, hLater⟩ := List.forall_mem_cons.mp hKeeps
      exact ih (putControl_shows hShown hControl hFirst) hLater hRest

theorem putControls_steps {first : Nat} {controls : List ControlValue} (hWell : s.WellFormed)
    (hPut : s.putControls a card first controls = .ok next) : ControlSteps s.controls next.controls := by
  induction controls generalizing s first with
  | nil =>
      cases hPut
      exact .refl
  | cons v rest ih =>
      obtain ⟨⟨row, put⟩, hFirst, hRest⟩ := bind_eq_ok_iff.mp hPut
      exact .head (putControl_step hWell hFirst) (ih (hWell.putControl hFirst) hRest)

theorem issueRows_shows {controls : List ControlValue} {expiry : Instant} {index : Nat}
    {rows : List QueueRow} {issued : List Card} (hShown : m.ShownBy s.controls)
    (hKeeps : ∀ v ∈ controls, a.KeepsPayload v)
    (hIssue : s.issueRows a controls expiry index rows = .ok (issued, next)) :
    (issued.foldl (fun m c => m.setAll a.now c.id controls) m).ShownBy next.controls := by
  induction rows generalizing s m index issued with
  | nil =>
      cases hIssue
      exact hShown
  | cons r rest ih =>
      obtain ⟨draw, cvv, inserted, controlled, ⟨others, last⟩, hInsert, hPut, hLater, hResult⟩ :=
        issueRows_cons_eq_ok hIssue
      cases hResult
      have hSame : inserted.controls = s.controls := by
        rw [(insertCard_eq_ok hInsert).1]
      have hCardShown := putControls_shows (m := m) (by rwa [hSame]) hKeeps hPut
      have hNextShown := ih hCardShown hLater
      exact hNextShown

theorem issueRows_steps {controls : List ControlValue} {expiry : Instant} {index : Nat}
    {rows : List QueueRow} {result : List Card × Store} (hWell : s.WellFormed)
    (hIssue : s.issueRows a controls expiry index rows = .ok result) :
    ControlSteps s.controls result.2.controls := by
  induction rows generalizing s index result with
  | nil =>
      cases hIssue
      exact .refl
  | cons r rest ih =>
      obtain ⟨draw, cvv, inserted, controlled, later, hInsert, hPut, hLater, rfl⟩ :=
        issueRows_cons_eq_ok hIssue
      have hSame : inserted.controls = s.controls := by
        rw [(insertCard_eq_ok hInsert).1]
      have hInserted := hWell.insertCard hInsert
      have hCardSteps := putControls_steps hInserted hPut
      rw [hSame] at hCardSteps
      have hRestSteps := ih (hInserted.putControls hPut) hLater
      exact hCardSteps.trans hRestSteps

theorem issue_shows {settings : IssuanceSettings} {issued : List Card} (hShown : m.ShownBy s.controls)
    (hKeeps : ∀ v ∈ settings.defaultControls, a.KeepsPayload v)
    (hIssue : s.issue a settings company = .ok (issued, next)) :
    (issued.foldl (fun m c => m.setAll a.now c.id settings.defaultControls) m).ShownBy
      next.controls := by
  obtain ⟨-, expiry, later, hRows, hResult⟩ := issue_issuesRows hIssue
  cases hResult
  -- the queue rows are marked last, which is no matter of the controls
  have hShows := issueRows_shows hShown hKeeps hRows
  exact hShows

theorem issue_steps {settings : IssuanceSettings} {result : List Card × Store} (hWell : s.WellFormed)
    (hIssue : s.issue a settings company = .ok result) : ControlSteps s.controls result.2.controls := by
  obtain ⟨-, expiry, later, hRows, rfl⟩ := issue_issuesRows hIssue
  have hSteps := issueRows_steps hWell hRows
  exact hSteps

/-! ## Removing controls -/

/-- Removing the control of a company's card tells whether it was there. -/
theorem deactivateControl_eq (hShown : m.ShownBy s.controls) :
    s.deactivateControl a company card kind = (s.getCard company card).map fun _ =>
      ((m card kind).isSome, { s with
        controls := s.controls.map fun r =>
          if r.isActiveOf card kind then { r with isActive := false, updatedAt := a.now } else r }) := by
  have hFound : (s.controls.any fun r => r.isActiveOf card kind) = (m card kind).isSome := by
    cases hEntry : m card kind with
    | none => simpa using hShown.eq_none_iff.mp hEntry
    | some e =>
        obtain ⟨r, hRow, -⟩ := hShown.exists_row hEntry
        have hMem : r ∈ s.controls.filter (·.isActiveOf card kind) := by
          rw [hRow]
          exact List.mem_singleton_self r
        simpa using ⟨r, List.mem_filter.mp hMem⟩
  unfold deactivateControl
  rw [← hFound]
  cases s.getCard company card with
  | error e => rfl
  | ok c => rfl

/-! ## Reading the controls of a card -/

theorem mapM_entries (rows : List ControlRow) (hEach : ∀ r ∈ rows, ∃ e, r.entry? = some e) :
    (rows.mapM fun r => liftFault .controlConfig (ControlValue.ofStored r.type r.payload)) =
      .ok ((rows.filterMap ControlRow.entry?).map (·.control)) := by
  induction rows with
  | nil => rfl
  | cons r rest ih =>
      obtain ⟨e, hEntry⟩ := hEach r List.mem_cons_self
      rw [List.mapM_cons, ih fun other hMem => hEach other (List.mem_cons_of_mem r hMem),
        List.filterMap_cons_some hEntry]
      unfold ControlRow.entry? at hEntry
      cases hRead : ControlValue.ofStored r.type r.payload with
      | error fault =>
          rw [hRead] at hEntry
          cases hEntry
      | ok v =>
          rw [hRead] at hEntry
          cases hEntry
          rfl

/-- The controls told of a card are the entries of the map for it, in the order of their time. -/
theorem activeControlValues_eq (hShown : m.ShownBy s.controls) (card : Uuid) :
    ∃ entries : List ControlEntry, entries.Perm (ControlType.all.filterMap (m card)) ∧
      s.activeControlValues card = .ok (entries.map (·.control)) ∧
      entries.Pairwise fun e later => later.since.storedBefore e.since = false := by
  have hRows : (s.activeControls card).Perm (s.controls.filter fun r => r.cardId == card && r.isActive) :=
    oldestFirst_perm
  refine ⟨(s.activeControls card).filterMap ControlRow.entry?,
    (hRows.filterMap _).trans (hShown.perm_entries card), mapM_entries _ ?_, ?_⟩
  · intro r hRow
    obtain ⟨hMem, hActive⟩ := List.mem_filter.mp (hRows.mem_iff.mp hRow)
    exact hShown.exists_entry hMem (Bool.and_eq_true_iff.mp hActive).2
  · refine pairwise_oldestFirst.filterMap _ ?_
    intro r later hOrder e hEntry f hLaterEntry
    obtain ⟨v, -, rfl⟩ := Option.map_eq_some_iff.mp hEntry
    obtain ⟨w, -, rfl⟩ := Option.map_eq_some_iff.mp hLaterEntry
    exact hOrder

end Store

/-! ## Runs -/

variable {s next : Store} {a : Ambient} {m : ControlMap}

/-- Whether an operation writes to the table of controls. -/
def Operation.writesControls : Operation → Bool
  | upsertControl .. | deactivateControl .. | issue .. => true
  | registerCompany .. | setCompanyStatus .. | enqueue .. | fundCard .. | setSpendingLimit ..
  | setPeriodLimits .. | blockCard .. | authorize .. => false

theorem controls_of_apply {operation : Operation} (hOther : operation.writesControls = false)
    (hKeyed : s.CardsKeyed) (hAlone : a.interference.balanceAfterRecord = none)
    (hApply : operation.apply s a = .ok next) : next.controls = s.controls := by
  have hOutcome := hApply
  unfold Operation.apply at hOutcome
  cases operation with
  | upsertControl | deactivateControl | issue => cases hOther
  | registerCompany new =>
      obtain ⟨result, hRun, rfl⟩ := map_eq_ok_iff.mp hOutcome
      rw [Store.registerCompany_eq_ok hRun]
  | setCompanyStatus company status =>
      obtain ⟨result, hRun, rfl⟩ := map_eq_ok_iff.mp hOutcome
      rw [Store.setCompanyStatus_eq_ok hRun]
  | enqueue company employees =>
      obtain ⟨result, hRun, rfl⟩ := map_eq_ok_iff.mp hOutcome
      rw [(Store.enqueue_eq_ok hRun).2.2]
  | fundCard | setSpendingLimit | setPeriodLimits | blockCard | authorize =>
      exact (cardsUsed_of_apply rfl hKeyed hAlone hApply).controls

theorem onControls_shows {operation : Operation} (hKeyed : s.CardsKeyed)
    (hAlone : a.interference.balanceAfterRecord = none)
    (hKeeps : ∀ v ∈ operation.controls, a.KeepsPayload v) (hShown : m.ShownBy s.controls)
    (hApply : operation.apply s a = .ok next) : (operation.onControls s a m).ShownBy next.controls := by
  have hOutcome := hApply
  unfold Operation.apply at hOutcome
  cases operation with
  | upsertControl company card v =>
      obtain ⟨⟨row, later⟩, hRun, rfl⟩ := map_eq_ok_iff.mp hOutcome
      change (m.upon (s.upsertControl a company card v) _).ShownBy _
      rw [hRun]
      exact Store.putControl_shows hShown (hKeeps v (List.mem_singleton_self v))
        (Store.upsertControl_put hRun)
  | deactivateControl company card kind =>
      obtain ⟨⟨found, later⟩, hRun, rfl⟩ := map_eq_ok_iff.mp hOutcome
      change (m.upon (s.deactivateControl a company card kind) _).ShownBy _
      rw [hRun]
      rw [Store.deactivateControl_eq hShown] at hRun
      obtain ⟨c, -, hResult⟩ := map_eq_ok_iff.mp hRun
      cases hResult
      exact hShown.deactivate
  | issue settings company =>
      obtain ⟨⟨issued, later⟩, hRun, rfl⟩ := map_eq_ok_iff.mp hOutcome
      change (m.upon (s.issue a settings company) _).ShownBy _
      rw [hRun]
      exact Store.issue_shows hShown hKeeps hRun
  | registerCompany | setCompanyStatus | enqueue | fundCard | setSpendingLimit | setPeriodLimits
  | blockCard | authorize =>
      rw [controls_of_apply rfl hKeyed hAlone hApply]
      exact hShown

theorem steps_of_apply {operation : Operation} (hWell : s.WellFormed)
    (hAlone : a.interference.balanceAfterRecord = none) (hApply : operation.apply s a = .ok next) :
    ControlSteps s.controls next.controls := by
  have hOutcome := hApply
  unfold Operation.apply at hOutcome
  cases operation with
  | upsertControl company card v =>
      obtain ⟨⟨row, later⟩, hRun, rfl⟩ := map_eq_ok_iff.mp hOutcome
      exact .single (Store.putControl_step hWell (Store.upsertControl_put hRun))
  | deactivateControl company card kind =>
      obtain ⟨result, hRun, rfl⟩ := map_eq_ok_iff.mp hOutcome
      obtain ⟨_, -, hResult⟩ := bind_eq_ok_iff.mp hRun
      cases hResult
      exact .single (.changed _ fun r _ => ControlRow.kept_deactivated card kind r)
  | issue settings company =>
      obtain ⟨result, hRun, rfl⟩ := map_eq_ok_iff.mp hOutcome
      exact Store.issue_steps hWell hRun
  | registerCompany | setCompanyStatus | enqueue | fundCard | setSpendingLimit | setPeriodLimits
  | blockCard | authorize =>
      rw [controls_of_apply rfl hWell.cardsKeyed hAlone hApply]
      exact .refl

theorem ControlMap.upon_of_error {α : Type} {outcome : Except Error (α × Store)}
    {change : α → ControlMap} {e : Error} (hFailed : outcome.map (·.2) = .error e) :
    m.upon outcome change = m := by
  cases outcome with
  | error fault => rfl
  | ok result => cases hFailed

theorem onControls_of_error {operation : Operation} {e : Error} (hApply : operation.apply s a = .error e) :
    operation.onControls s a m = m := by
  cases operation with
  | upsertControl | deactivateControl | issue => exact ControlMap.upon_of_error hApply
  | registerCompany | setCompanyStatus | enqueue | fundCard | setSpendingLimit | setPeriodLimits
  | blockCard | authorize => rfl

/-- Along a run the table goes on showing the map. -/
theorem run_shows (hState : Reconciled s) (hShown : m.ShownBy s.controls) {calls : List Call}
    (hKeeps : ∀ call ∈ calls, call.KeepsPayloads) : (m.after s calls).ShownBy (s.run calls).controls := by
  induction calls generalizing s m with
  | nil => exact hShown
  | cons call rest ih =>
      obtain ⟨hCall, hRest⟩ := List.forall_mem_cons.mp hKeeps
      change ((call.operation.onControls s call.ambient m).after (s.after call) rest).ShownBy
        ((s.after call).run rest).controls
      cases hApply : call.operation.apply s call.ambient with
      | ok next =>
          have hNextState := hState.step (ledgerChange_of_apply hState.keyed call.alone hApply)
          rw [Store.after_of_ok hApply]
          exact ih hNextState (onControls_shows hState.keyed call.alone hCall hShown hApply) hRest
      | error e =>
          rw [Store.after_of_error hApply, onControls_of_error hApply]
          exact ih hState hShown hRest

/-- Along a run the table changes in steps, whatever its columns make of payloads. -/
theorem run_steps (hWell : s.WellFormed) (calls : List Call) :
    ControlSteps s.controls (s.run calls).controls := by
  have hBoth : (s.run calls).WellFormed ∧ ControlSteps s.controls (s.run calls).controls := by
    refine Store.run_preserves (P := fun now => now.WellFormed ∧ ControlSteps s.controls now.controls) ?_
      ⟨hWell, .refl⟩ calls
    rintro old next call ⟨hOld, hSteps⟩ hApply
    exact ⟨hOld.of_apply hApply, hSteps.trans (steps_of_apply hOld call.alone hApply)⟩
  exact hBoth.2

/-- Setting a control where the map has one replaces a row by one of the same identifier and time of
creation; where it has none a row is added. Either holds what the column gives back of the payload. -/
theorem Store.upsertControl_row {company card : Uuid} {v : ControlValue} {row : ControlRow}
    (hShown : m.ShownBy s.controls) (hUpsert : s.upsertControl a company card v = .ok (row, next)) :
    a.jsonColumn v.toPayload = some row.payload ∧
      ((m card v.type).isSome → ∃ front old back, s.controls = front ++ old :: back ∧
        row = { old with payload := row.payload, updatedAt := a.now } ∧
        next.controls = front ++ row :: back) ∧
      (m card v.type = none → row.createdAt = a.now ∧ next.controls = s.controls ++ [row]) := by
  obtain ⟨payload, hColumn, hCases⟩ := Store.putControl_cases (Store.upsertControl_put hUpsert)
  rcases hCases with ⟨old, hActive, hRow, hNext⟩ | ⟨hNone, hRow, -, -, hNext⟩
  · obtain ⟨hMem, hOwn⟩ := Store.mem_of_activeControl? hActive
    refine ⟨by rw [hRow, hColumn], fun _ => ?_, fun hNone => ?_⟩
    · obtain ⟨front, back, hRows⟩ := List.append_of_mem hMem
      rw [hRows] at hShown hNext
      exact ⟨front, old, back, hRows, by rw [hRow], hNext ▸ hShown.overwritten_eq row⟩
    · have hNot := hShown.eq_none_iff.mp hNone old hMem
      rw [hOwn] at hNot
      cases hNot
  · refine ⟨by rw [hRow, hColumn], fun hSome => ?_, fun _ => ⟨by rw [hRow], by rw [hNext]⟩⟩
    rw [Store.isNone_of_activeControl? hShown hNone] at hSome
    cases hSome

/-- After every run of the workflow at most one row of a card and a type is active, and however the run
goes on no row is removed, and an inactive one stays as it is. If the column gives the payloads of the run
back as they were written, the table of controls stands for the map that its calls make of nothing: read
through its active rows it is this map. The controls told of a card are the values of the map for it, each
once, in the order of the time since which their keys are there, as it is stored; in the years of four
digits that is the order of the instants. Removing a control tells whether its key was there. Setting one
replaces a row that keeps its identifier and time of creation, or adds one; the row holds the payload that
the column gives back. -/
theorem controls_refine_map (calls : List Call) :
    let s := Store.run {} calls
    let m := ControlMap.empty.after {} calls
    (∀ card (type : String), (s.controls.filter fun r =>
      r.cardId == card && r.type == type && r.isActive).length ≤ 1) ∧
      (∀ more, RowsKept ControlRow.Kept s.controls (Store.run {} (calls ++ more)).controls) ∧
      ((∀ call ∈ calls, call.KeepsPayloads) →
        (∀ card kind, (s.activeControl? card kind).bind ControlRow.entry? = m card kind) ∧
        (∀ card, ∃ entries : List ControlEntry, entries.Perm (ControlType.all.filterMap (m card)) ∧
          (entries.map (·.control.type)).Nodup ∧
          s.activeControlValues card = .ok (entries.map (·.control)) ∧
          (entries.Pairwise fun e later => later.since.storedBefore e.since = false) ∧
          ((∀ e ∈ entries, e.since.InWrittenYears) →
            entries.Pairwise fun e later => e.since ≤ later.since)) ∧
        (∀ a company card kind, (s.deactivateControl a company card kind).map (·.1) =
          (s.getCard company card).map fun _ => (m card kind).isSome) ∧
        ∀ a company card v row next, s.upsertControl a company card v = .ok (row, next) →
          a.jsonColumn v.toPayload = some row.payload ∧
          ((m card v.type).isSome → ∃ front old back, s.controls = front ++ old :: back ∧
            row = { old with payload := row.payload, updatedAt := a.now } ∧
            next.controls = front ++ row :: back) ∧
          (m card v.type = none → row.createdAt = a.now ∧ next.controls = s.controls ++ [row])) := by
  intro s m
  refine ⟨?_, fun more => ?_, fun hKeeps => ?_⟩
  · exact (run_steps Store.WellFormed.empty calls).singleActive fun _ _ => Nat.zero_le 1
  · rw [Store.run_append]
    exact (run_steps (Store.WellFormed.empty.run calls) more).rowsKept
  · have hShown : m.ShownBy s.controls := run_shows Reconciled.empty .empty hKeeps
    refine ⟨fun card kind => hShown.find?_eq, fun card => ?_, fun a company card kind => ?_, ?_⟩
    · obtain ⟨entries, hEntries, hValues, hOrder⟩ := Store.activeControlValues_eq hShown card
      refine ⟨entries, hEntries, ?_, hValues, hOrder, ?_⟩
      · exact (hEntries.map _).nodup_iff.mpr (hShown.nodup_types card)
      · intro hYears
        exact hOrder.imp_of_mem fun hMem hLater =>
          Instant.le_of_not_storedBefore (hYears _ hMem) (hYears _ hLater)
    · rw [Store.deactivateControl_eq hShown]
      cases s.getCard company card with
      | error e => rfl
      | ok c => rfl
    · intro a company card v row next hUpsert
      exact Store.upsertControl_row hShown hUpsert

/-- The card of the opening has a category control, so that setting another one overwrites its row, and
no time window, so that setting one adds a row. -/
theorem controls_refine_map_of_sample :
    let s := Store.run {} Sample.opening
    let food : ControlValue := .merchantCategory ⟨["food"], []⟩
    let office : ControlValue := .timeBased ⟨"09:00", "18:00"⟩
    (∀ call ∈ Sample.opening, call.KeepsPayloads) ∧
      (∃ front old row back next,
        s.upsertControl (Sample.surroundings 6) Sample.tenant Sample.issued food = .ok (row, next) ∧
          s.controls = front ++ old :: back ∧ row.id = old.id ∧ next.controls = front ++ row :: back) ∧
      ∃ row next,
        s.upsertControl (Sample.surroundings 6) Sample.tenant Sample.issued office = .ok (row, next) ∧
          next.controls = s.controls ++ [row] := by
  intro s food office
  obtain ⟨-, -, hMap⟩ := controls_refine_map Sample.opening
  obtain ⟨-, -, -, hUpsert⟩ := hMap Sample.keepsPayloads_opening
  obtain ⟨⟨row, next⟩, hFood⟩ :=
    exists_ok_of_isSome (x := s.upsertControl (Sample.surroundings 6) Sample.tenant Sample.issued food)
      (by decide +kernel)
  obtain ⟨⟨added, later⟩, hOffice⟩ :=
    exists_ok_of_isSome (x := s.upsertControl (Sample.surroundings 6) Sample.tenant Sample.issued office)
      (by decide +kernel)
  refine ⟨Sample.keepsPayloads_opening, ?_, ?_⟩
  · obtain ⟨front, old, back, hRows, hRow, hNext⟩ :=
      (hUpsert _ _ _ _ row next hFood).2.1 (by decide +kernel)
    exact ⟨front, old, row, back, next, hFood, hRows, by rw [hRow], hNext⟩
  · have hAbsent : ControlMap.empty.after {} Sample.opening Sample.issued office.type = none := by
      rw [← Option.isNone_iff_eq_none]
      decide +kernel
    exact ⟨added, later, hOffice, ((hUpsert _ _ _ _ added later hOffice).2.2 hAbsent).2⟩

end CardLedger
