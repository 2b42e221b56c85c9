import CardLedger.Proofs.IssuedCards

/-!
# Issuance along runs

What a call does to the queue and to the faces of cards is one of three things: nothing, new pending rows
for an active company, or new cards for the pending rows of an active company. From these three follows
what all runs have in common: no employee who was queued is lost or gets two cards.
-/

namespace CardLedger

/-- The faces of the cards in the order of their issue. -/
def Store.faces (s : Store) : List CardFace :=
  s.cards.map Card.face

/-- The three things that a call can do to the queue and the faces of cards. -/
inductive IssuanceChange (s next : Store) : Prop where
  | kept (hQueue : next.queue = s.queue) (hFaces : next.faces = s.faces)
  | queued (company : Uuid) (rows : List QueueRow) (hActive : s.IsActive company)
      (hRows : ∀ r ∈ rows, r.companyId = company ∧ r.status = .pending)
      (hRowsKeyed : (rows.map (·.id)).Nodup) (hCardIdsKeyed : (rows.map (·.cardId)).Nodup)
      (hFresh : ∀ r ∈ rows, (∀ old ∈ s.queue, old.id ≠ r.id ∧ old.cardId ≠ r.cardId) ∧
        ∀ c ∈ s.cards, c.id ≠ r.cardId)
      (hQueue : next.queue = s.queue ++ rows) (hCards : next.cards = s.cards)
  | issued (company : Uuid) (rows : List QueueRow) (new : List Card) (now : Instant)
      (hActive : s.IsActive company)
      (hRows : ∀ r ∈ rows, r ∈ s.queue ∧ r.status = .pending ∧ r.companyId = company)
      (hIds : new.map (·.id) = rows.map (·.cardId))
      (hNew : ∀ c ∈ new, (∃ r ∈ rows, c.face.IsOf r) ∧ c.face.IsNumbered)
      (hKeyed : next.CardsKeyed) (hQueue : next.queue = s.queue.map (·.marked now rows))
      (hCards : next.cards = s.cards ++ new)

variable {s next : Store} {a : Ambient} {company : Uuid}

/-! ## What operations do -/

theorem map_zipIdx {α β : Type} (items : List α) (f : Nat → β) :
    (items.zipIdx.map fun item => f item.2) = (List.range items.length).map f := by
  rw [List.range_eq_range', ← List.zipIdx_map_snd 0 items, List.map_map]
  rfl

theorem Store.enqueue_change {employees : List EmployeeRecord} {result : List QueueRow × Store}
    (hFresh : a.FreshFor s (2 * employees.length))
    (hEnqueue : s.enqueue a company employees = .ok result) : IssuanceChange s result.2 := by
  obtain ⟨hActive, hRows, hStore⟩ := enqueue_eq_ok hEnqueue
  -- the row of an employee draws two identifiers, one for itself and one for its card
  have hEach : ∀ r ∈ result.1, ∃ i < employees.length, r.id = a.freshId (2 * i) ∧
      r.cardId = a.freshId (2 * i + 1) ∧ r.companyId = company ∧ r.status = .pending := by
    intro r hRow
    rw [hRows] at hRow
    obtain ⟨⟨e, i⟩, hItem, rfl⟩ := List.mem_map.mp hRow
    obtain ⟨-, hIndex, -⟩ := List.mem_zipIdx hItem
    exact ⟨i, by omega, rfl, rfl, rfl, rfl⟩
  have hDistinct : ∀ offset < 2,
      ((List.range employees.length).map fun i => a.freshId (2 * i + offset)).Nodup := by
    intro offset hOffset
    refine List.Nodup.map_on (fun i hi j hj hSame => ?_) List.nodup_range
    rw [List.mem_range] at hi hj
    have hIndex := hFresh.distinct _ (by omega) _ (by omega) hSame
    omega
  refine .queued company result.1 hActive ?_ ?_ ?_ ?_ (by rw [hStore]) (by rw [hStore])
  · intro r hRow
    obtain ⟨_, -, -, -, hCompany, hStatus⟩ := hEach r hRow
    exact ⟨hCompany, hStatus⟩
  · rw [hRows, List.map_map]
    exact (map_zipIdx employees fun i => a.freshId (2 * i)) ▸ hDistinct 0 (by omega)
  · rw [hRows, List.map_map]
    exact (map_zipIdx employees fun i => a.freshId (2 * i + 1)) ▸ hDistinct 1 (by omega)
  · intro r hRow
    obtain ⟨i, hi, hId, hCard, -⟩ := hEach r hRow
    rw [hId, hCard]
    exact ⟨fun old hOld => ⟨hFresh.queueRow (by omega) old hOld, hFresh.queueCard (by omega) old hOld⟩,
      hFresh.card (by omega)⟩

theorem Store.issue_change {settings : IssuanceSettings} {result : List Card × Store}
    (hKeyed : s.CardsKeyed) (hIssue : s.issue a settings company = .ok result) :
    IssuanceChange s result.2 := by
  obtain ⟨hActive, hStore, hNextKeyed, hIds, expiry, hCards⟩ := issue_eq_ok hKeyed hIssue
  refine .issued company (s.pending company) result.1 a.now hActive ?_ hIds ?_ hNextKeyed
    (by rw [hStore]; rfl) (by rw [hStore])
  · intro r hRow
    obtain ⟨hMem, hCompany, hPending⟩ := mem_pending.mp hRow
    exact ⟨hMem, hPending, hCompany⟩
  · intro c hc
    obtain ⟨r, hRow, draw, cvv, rfl⟩ := hCards c hc
    exact ⟨⟨r, hRow, r.isOf_face_card _ cvv a.now expiry⟩, r.isNumbered_face_card draw cvv a.now expiry⟩

theorem issuanceChange_of_apply {operation : Operation} (hKeyed : s.CardsKeyed)
    (hAlone : a.interference.balanceAfterRecord = none) (hFresh : a.FreshFor s (operation.draws s))
    (hApply : operation.apply s a = .ok next) : IssuanceChange s next := by
  have hOutcome := hApply
  unfold Operation.apply at hOutcome
  cases operation with
  | enqueue company employees =>
      obtain ⟨result, hRun, rfl⟩ := map_eq_ok_iff.mp hOutcome
      exact Store.enqueue_change hFresh hRun
  | issue settings company =>
      obtain ⟨result, hRun, rfl⟩ := map_eq_ok_iff.mp hOutcome
      exact Store.issue_change hKeyed hRun
  | registerCompany new =>
      obtain ⟨result, hRun, rfl⟩ := map_eq_ok_iff.mp hOutcome
      have hStore := Store.registerCompany_eq_ok hRun
      exact .kept (by rw [hStore]) (by rw [hStore]; rfl)
  | setCompanyStatus company status =>
      obtain ⟨result, hRun, rfl⟩ := map_eq_ok_iff.mp hOutcome
      have hStore := Store.setCompanyStatus_eq_ok hRun
      exact .kept (by rw [hStore]) (by rw [hStore]; rfl)
  | upsertControl company card control =>
      obtain ⟨result, hRun, rfl⟩ := map_eq_ok_iff.mp hOutcome
      have hStore := Store.upsertControl_eq_ok hRun
      exact .kept (by rw [hStore]) (by rw [hStore]; rfl)
  | deactivateControl company card kind =>
      obtain ⟨result, hRun, rfl⟩ := map_eq_ok_iff.mp hOutcome
      have hStore := Store.deactivateControl_eq_ok hRun
      exact .kept (by rw [hStore]) (by rw [hStore]; rfl)
  | fundCard | setSpendingLimit | setPeriodLimits | blockCard | authorize =>
      have hUsed := cardsUsed_of_apply rfl hKeyed hAlone hApply
      exact .kept hUsed.queue hUsed.faces

/-! ## What follows from a change -/

namespace IssuanceChange

theorem issued_next (hChange : IssuanceChange s next) (hIssued : Issued s.queue s.faces) :
    Issued next.queue next.faces := by
  cases hChange with
  | kept hQueue hFaces => rwa [hQueue, hFaces]
  | queued company rows hActive hRows hRowsKeyed hCardIdsKeyed hFresh hQueue hCards =>
      have hFaces : next.faces = s.faces := congrArg (List.map Card.face) hCards
      rw [hQueue, hFaces]
      refine hIssued.enqueue (fun r hRow => (hRows r hRow).2) hRowsKeyed hCardIdsKeyed
        (fun r hRow old hOld => ((hFresh r hRow).1 old hOld).1)
        (fun r hRow => ⟨fun old hOld => ((hFresh r hRow).1 old hOld).2, fun f hFace => ?_⟩)
      obtain ⟨c, hc, rfl⟩ := List.mem_map.mp hFace
      exact (hFresh r hRow).2 c hc
  | issued company rows new now hActive hRows hIds hNew hKeyed hQueue hCards =>
      have hFaces : next.faces = s.faces ++ new.map Card.face := by
        unfold Store.faces
        rw [hCards, List.map_append]
      have hFacesKeyed : (next.faces.map (·.id)).Nodup := by
        unfold Store.faces
        rw [List.map_map]
        exact hKeyed
      rw [hFaces] at hFacesKeyed
      rw [hQueue, hFaces]
      refine hIssued.issue (fun r hRow => ⟨(hRows r hRow).1, (hRows r hRow).2.1⟩) hFacesKeyed ?_ ?_
      · rw [List.map_map]
        exact hIds
      · intro f hFace
        obtain ⟨c, hc, rfl⟩ := List.mem_map.mp hFace
        exact hNew c hc

theorem rowsKept (hChange : IssuanceChange s next) (hIssued : Issued s.queue s.faces) :
    RowsKept QueueRow.Kept s.queue next.queue := by
  cases hChange with
  | kept hQueue hFaces =>
      rw [hQueue]
      exact .refl QueueRow.Kept.refl
  | queued company rows hActive hRows hRowsKeyed hCardIdsKeyed hFresh hQueue hCards =>
      rw [hQueue]
      exact .append QueueRow.Kept.refl rows
  | issued company rows new now hActive hRows hIds hNew hKeyed hQueue hCards =>
      rw [hQueue]
      exact .map (hIssued.kept_marked fun r hRow => ⟨(hRows r hRow).1, (hRows r hRow).2.1⟩)

/-- Cards and queue rows are added for active companies only. -/
theorem added (hChange : IssuanceChange s next) :
    (∀ c ∈ next.cards.drop s.cards.length, s.IsActive c.companyId) ∧
      ∀ r ∈ next.queue.drop s.queue.length, s.IsActive r.companyId := by
  cases hChange with
  | kept hQueue hFaces =>
      have hLength : next.cards.length = s.cards.length := by
        simpa [Store.faces] using congrArg List.length hFaces
      rw [hQueue, List.drop_length, ← hLength, List.drop_length]
      simp
  | queued company rows hActive hRows hRowsKeyed hCardIdsKeyed hFresh hQueue hCards =>
      rw [hQueue, hCards, List.drop_length, List.drop_left]
      refine ⟨by simp, fun r hRow => ?_⟩
      rw [(hRows r hRow).1]
      exact hActive
  | issued company rows new now hActive hRows hIds hNew hKeyed hQueue hCards =>
      have hLength : next.queue.length = s.queue.length := by
        rw [hQueue, List.length_map]
      rw [hCards, List.drop_left, ← hLength, List.drop_length]
      refine ⟨fun c hc => ?_, by simp⟩
      obtain ⟨⟨r, hRow, hOf⟩, -⟩ := hNew c hc
      have hCompany : c.companyId = r.companyId := hOf.company
      rw [hCompany, (hRows r hRow).2.2]
      exact hActive

end IssuanceChange

/-! ## Runs -/

theorem run_issued (hState : Reconciled s) (hIssued : Issued s.queue s.faces) {calls : List Call}
    (hFresh : FreshRun s calls) :
    Issued (s.run calls).queue (s.run calls).faces ∧
      RowsKept QueueRow.Kept s.queue (s.run calls).queue := by
  induction calls generalizing s with
  | nil => exact ⟨hIssued, .refl QueueRow.Kept.refl⟩
  | cons call rest ih =>
      obtain ⟨hCallFresh, hRestFresh⟩ := hFresh
      change Issued ((s.after call).run rest).queue ((s.after call).run rest).faces ∧
        RowsKept QueueRow.Kept s.queue ((s.after call).run rest).queue
      cases hApply : call.operation.apply s call.ambient with
      | ok next =>
          rw [Store.after_of_ok hApply] at hRestFresh ⊢
          have hChange := issuanceChange_of_apply hState.keyed call.alone hCallFresh hApply
          have hNextState := hState.step (ledgerChange_of_apply hState.keyed call.alone hApply)
          obtain ⟨hLast, hKept⟩ := ih hNextState (hChange.issued_next hIssued) hRestFresh
          exact ⟨hLast, (hChange.rowsKept hIssued).trans QueueRow.Kept.trans hKept⟩
      | error e =>
          rw [Store.after_of_error hApply] at hRestFresh ⊢
          exact ih hState hIssued hRestFresh

theorem added_after {call : Call} (hKeyed : s.CardsKeyed)
    (hFresh : call.ambient.FreshFor s (call.operation.draws s)) :
    (∀ c ∈ (s.after call).cards.drop s.cards.length, s.IsActive c.companyId) ∧
      ∀ r ∈ (s.after call).queue.drop s.queue.length, s.IsActive r.companyId := by
  cases hApply : call.operation.apply s call.ambient with
  | ok next =>
      rw [Store.after_of_ok hApply]
      exact (issuanceChange_of_apply hKeyed call.alone hFresh hApply).added
  | error e =>
      rw [Store.after_of_error hApply]
      simp

/-- Along every run that draws fresh identifiers a queue row is pending and has no card, or generated and
has one card, which tells of its company and its employee; every card comes from one generated row; and
its number is a proper one and ends in its last four digits. However the run goes on, queue rows stay
what they are, generated ones unchanged. Each call adds cards and queue rows for companies only that are
active when it is made. -/
theorem issuance_loses_nothing (calls : List Call) (hFresh : FreshRun {} calls) :
    let s := Store.run {} calls
    (∀ r ∈ s.queue,
      (r.status = .pending ∧ ∀ c ∈ s.cards, c.id ≠ r.cardId) ∨
      (r.status = .generated ∧ ∃ c, (s.cards.filter fun c => c.id == r.cardId) = [c] ∧
        c.companyId = r.companyId ∧ c.employeeId = r.employeeId.toText ∧
        c.employeeEmail = r.employeeEmail ∧ c.holder = "Employee - " ++ r.employeeEmail)) ∧
      (∀ c ∈ s.cards, ∃ r, (s.queue.filter fun r => r.cardId == c.id) = [r] ∧
        r.status = .generated) ∧
      (∀ c ∈ s.cards, Luhn.IsCardNumber c.number ∧
        c.lastFour = String.ofList (c.number.toList.drop 12)) ∧
      (∀ earlier later, calls = earlier ++ later →
        RowsKept QueueRow.Kept (Store.run {} earlier).queue s.queue) ∧
      ∀ earlier call later, calls = earlier ++ call :: later →
        let before := Store.run {} earlier
        let next := Store.run {} (earlier ++ [call])
        (∀ c ∈ next.cards.drop before.cards.length, before.IsActive c.companyId) ∧
          ∀ r ∈ next.queue.drop before.queue.length, before.IsActive r.companyId := by
  intro s
  obtain ⟨hIssued, -⟩ := run_issued Reconciled.empty .empty hFresh
  refine ⟨?_, ?_, ?_, ?_, ?_⟩
  · intro r hRow
    cases hStatus : r.status with
    | pending =>
        refine .inl ⟨rfl, fun c hc => ?_⟩
        exact hIssued.pending r hRow hStatus c.face (List.mem_map_of_mem hc)
    | generated =>
        obtain ⟨f, hFace, hOf⟩ := hIssued.generated r hRow hStatus
        obtain ⟨c, hc, rfl⟩ := List.mem_map.mp hFace
        have hId : c.id = r.cardId := hOf.id
        refine .inr ⟨rfl, c, ?_, hOf.company, hOf.employee, hOf.email, hOf.holder⟩
        rw [← hId]
        exact filter_key (Reconciled.empty.run calls).keyed hc
  · intro c hc
    obtain ⟨r, hRow, hStatus, hOf⟩ := hIssued.issued c.face (List.mem_map_of_mem hc)
    have hId : c.id = r.cardId := hOf.id
    refine ⟨r, ?_, hStatus⟩
    rw [hId]
    exact filter_key hIssued.cardIdsKeyed hRow
  · intro c hc
    have hNumbered := hIssued.numbered c.face (List.mem_map_of_mem hc)
    exact ⟨hNumbered.number, hNumbered.lastFour⟩
  · rintro earlier later rfl
    obtain ⟨hEarlier, hLater⟩ := freshRun_append.mp hFresh
    obtain ⟨hEarlierIssued, -⟩ := run_issued Reconciled.empty .empty hEarlier
    simp only [s, Store.run_append]
    exact (run_issued (Reconciled.empty.run earlier) hEarlierIssued hLater).2
  · rintro earlier call later rfl before next
    obtain ⟨-, hCall, -⟩ := freshRun_append.mp hFresh
    have hNext : next = before.after call := Store.run_append {} earlier [call]
    rw [hNext]
    exact added_after (Reconciled.empty.run earlier).keyed hCall

namespace Sample

/-- After the opening a second employee is queued, but the company is suspended before the issue. -/
def suspendedIssue : List Call :=
  opening ++
    [call 6 (.enqueue tenant [⟨.ofNat 8, "bob@acme.example"⟩]),
      call 7 (.setCompanyStatus tenant .suspended), call 8 (.issue {} tenant)]

end Sample

/-- The first employee has a card, the second is still waiting and has none. -/
theorem issuance_loses_nothing_of_sample :
    let s := Store.run {} Sample.suspendedIssue
    FreshRun {} Sample.suspendedIssue ∧
      (∃ r ∈ s.queue, r.status = .generated ∧ ∃ c, (s.cards.filter fun c => c.id == r.cardId) = [c] ∧
        c.holder = "Employee - " ++ r.employeeEmail) ∧
      ∃ r ∈ s.queue, r.status = .pending ∧ ∀ c ∈ s.cards, c.id ≠ r.cardId := by
  intro s
  have hFresh : FreshRun {} Sample.suspendedIssue := by decide +kernel
  obtain ⟨hRows, -⟩ := issuance_loses_nothing Sample.suspendedIssue hFresh
  obtain ⟨r, hRow, hGenerated⟩ : ∃ r ∈ s.queue, r.status = .generated := by decide +kernel
  obtain ⟨waiting, hWaiting, hPending⟩ : ∃ r ∈ s.queue, r.status = .pending := by decide +kernel
  refine ⟨hFresh, ⟨r, hRow, hGenerated, ?_⟩, ⟨waiting, hWaiting, hPending, ?_⟩⟩
  · rcases hRows r hRow with ⟨hStatus, -⟩ | ⟨-, c, hCard, -, -, -, hHolder⟩
    · rw [hGenerated] at hStatus
      cases hStatus
    · exact ⟨c, hCard, hHolder⟩
  · rcases hRows waiting hWaiting with ⟨-, hNone⟩ | ⟨hStatus, -⟩
    · exact hNone
    · rw [hPending] at hStatus
      cases hStatus

end CardLedger
