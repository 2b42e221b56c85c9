import CardLedger.Proofs.Workflow

/-!
# Keys and references

What the tables guarantee by themselves: cards, queue rows and controls have identifiers of their own,
and a transaction or a control refers to a card that is there. Every operation checks this before it
adds a row, so it holds after every run of the workflow.
-/

namespace CardLedger.Store

/-- Rows have identifiers of their own, and what belongs to a card refers to one that is there. -/
structure WellFormed (s : Store) : Prop where
  cardsKeyed : s.CardsKeyed
  queueKeyed : (s.queue.map (·.id)).Nodup
  controlsKeyed : (s.controls.map (·.id)).Nodup
  cardOfTransaction : ∀ t ∈ s.transactions, t.cardId ∈ s.cards.map (·.id)
  cardOfControl : ∀ r ∈ s.controls, r.cardId ∈ s.cards.map (·.id)

variable {s next : Store} {a : Ambient} {i : Interference} {company card id : Uuid}
  {change : Card → Card} {t : Transaction}

/-- What a call does to the controls of a card: rows of the card are changed, or one is added. -/
inductive ControlChange (s : Store) (card : Uuid) (next : Store) : Prop where
  | changed (change : ControlRow → ControlRow)
      (hKept : ∀ r ∈ s.controls, (change r).id = r.id ∧ (change r).cardId = r.cardId)
      (hAlone : ∀ r ∈ s.controls, r.cardId ≠ card → change r = r)
      (hStore : next = { s with controls := s.controls.map change })
  | added (row : ControlRow) (hCard : row.cardId = card) (hFound : ∃ c, s.card? card = some c)
      (hNew : ∀ old ∈ s.controls, old.id ≠ row.id)
      (hStore : next = { s with controls := s.controls ++ [row] })

theorem controlChange_of_deactivateControl {kind : ControlType} {result : Bool × Store}
    (hDeactivate : s.deactivateControl a company card kind = .ok result) :
    s.ControlChange card result.2 := by
  obtain ⟨_, -, hResult⟩ := bind_eq_ok_iff.mp hDeactivate
  cases hResult
  refine .changed _ (fun r _ => ?_) (fun r _ hOther => ?_) rfl
  · split
    · exact ⟨rfl, rfl⟩
    · exact ⟨rfl, rfl⟩
  · refine if_neg fun hOf => hOther ?_
    simp only [ControlRow.isActiveOf, Bool.and_eq_true, beq_iff_eq] at hOf
    exact hOf.1.1

namespace WellFormed

theorem empty : WellFormed {} where
  cardsKeyed := List.nodup_nil
  queueKeyed := List.nodup_nil
  controlsKeyed := List.nodup_nil
  cardOfTransaction := by simp
  cardOfControl := by simp

/-- A card that is not there has no controls. -/
theorem cardId_ne_of_unused (hWell : s.WellFormed) (hUnused : ∀ c ∈ s.cards, c.id ≠ card) :
    ∀ r ∈ s.controls, r.cardId ≠ card := by
  intro r hMem hSame
  obtain ⟨c, hCard, hId⟩ := List.mem_map.mp (hWell.cardOfControl r hMem)
  exact hUnused c hCard (hId.trans hSame)

/-! ## Cards and transactions -/

theorem modifyCard (hWell : s.WellFormed) (hId : ∀ c, (change c).id = c.id) :
    (s.modifyCard id change).WellFormed where
  cardsKeyed := (cardsKeyed_modifyCard hId).mpr hWell.cardsKeyed
  queueKeyed := hWell.queueKeyed
  controlsKeyed := hWell.controlsKeyed
  cardOfTransaction := by
    rw [modifyCard_ids hId]
    exact hWell.cardOfTransaction
  cardOfControl := by
    rw [modifyCard_ids hId]
    exact hWell.cardOfControl

theorem withTransaction (hWell : s.WellFormed) (hCard : t.cardId ∈ s.cards.map (·.id)) :
    (s.withTransaction t).WellFormed where
  cardsKeyed := hWell.cardsKeyed
  queueKeyed := hWell.queueKeyed
  controlsKeyed := hWell.controlsKeyed
  cardOfTransaction := by
    intro u hu
    rcases List.mem_append.mp hu with hOld | hNew
    · exact hWell.cardOfTransaction u hOld
    · rw [List.mem_singleton.mp hNew]
      exact hCard
  cardOfControl := hWell.cardOfControl

theorem insertCard {c : Card} (hWell : s.WellFormed) (hInsert : s.insertCard c = .ok next) :
    next.WellFormed := by
  have hKeyed := cardsKeyed_insertCard hWell.cardsKeyed hInsert
  obtain ⟨rfl, -⟩ := insertCard_eq_ok hInsert
  exact
    { cardsKeyed := hKeyed
      queueKeyed := hWell.queueKeyed
      controlsKeyed := hWell.controlsKeyed
      cardOfTransaction := fun t ht => by
        simpa using .inl (by simpa using hWell.cardOfTransaction t ht)
      cardOfControl := fun r hr => by
        simpa using .inl (by simpa using hWell.cardOfControl r hr) }

/-! ## The queue -/

theorem insertQueueRow {r : QueueRow} (hWell : s.WellFormed) (hInsert : s.insertQueueRow r = .ok next) :
    next.WellFormed := by
  obtain ⟨hNew, hRest⟩ := unless_eq_ok_iff.mp hInsert
  obtain ⟨-, hStore⟩ := unless_eq_ok_iff.mp hRest
  cases hStore
  exact { hWell with queueKeyed := nodup_map_concat hWell.queueKeyed (by simpa using hNew) }

theorem insertQueueRows {rows : List QueueRow} (hWell : s.WellFormed)
    (hInsert : s.insertQueueRows rows = .ok next) : next.WellFormed := by
  induction rows generalizing s with
  | nil =>
      cases hInsert
      exact hWell
  | cons r rest ih =>
      obtain ⟨queued, hRow, hRest⟩ := bind_eq_ok_iff.mp hInsert
      exact ih (hWell.insertQueueRow hRow) hRest

theorem markGenerated {now : Instant} {rows : List QueueRow} (hWell : s.WellFormed) :
    (s.markGenerated now rows).WellFormed := by
  refine { hWell with queueKeyed := ?_ }
  have hIds : (s.markGenerated now rows).queue.map (·.id) = s.queue.map (·.id) := by
    unfold Store.markGenerated
    rw [List.map_map]
    refine List.map_congr_left fun r _ => ?_
    rw [Function.comp_apply]
    split
    · rfl
    · rfl
  rw [hIds]
  exact hWell.queueKeyed

theorem enqueue {employees : List EmployeeRecord} {result : List QueueRow × Store}
    (hWell : s.WellFormed) (hEnqueue : s.enqueue a company employees = .ok result) :
    result.2.WellFormed := by
  obtain ⟨-, -, hInsert⟩ := enqueue_inserts hEnqueue
  exact hWell.insertQueueRows hInsert

/-! ## Controls -/

/-- Under the primary key the row that is overwritten is the one that was found. -/
theorem controlChange_of_putControl {v : ControlValue} {row : ControlRow}
    (hWell : s.WellFormed) (hPut : s.putControl a id card v = .ok (row, next)) :
    s.ControlChange card next := by
  obtain ⟨payload, -, ⟨old, hActive, hRow, hStore⟩ | ⟨-, hRow, hNew, hFound, hStore⟩⟩ :=
    putControl_cases hPut
  · obtain ⟨hOld, hOf⟩ := mem_of_activeControl? hActive
    simp only [ControlRow.isActiveOf, Bool.and_eq_true, beq_iff_eq] at hOf
    -- the update goes by the identifier, and under the key this means the row that was found
    have hSame : ∀ r ∈ s.controls, (r.id == old.id) = true → r = old := fun r hr hId =>
      List.inj_on_of_nodup_map hWell.controlsKeyed hr hOld (beq_iff_eq.mp hId)
    refine .changed _ (fun r hr => ?_) (fun r hr hOther => ?_) hStore
    · split
      · next hId =>
          rw [hSame r hr hId, hRow]
          exact ⟨rfl, rfl⟩
      · exact ⟨rfl, rfl⟩
    · refine if_neg fun hId => hOther ?_
      rw [hSame r hr hId]
      exact hOf.1.1
  · refine .added row (by rw [hRow]) hFound ?_ hStore
    rw [hRow]
    exact hNew

theorem of_controlChange (hWell : s.WellFormed) (hChange : s.ControlChange card next) :
    next.WellFormed := by
  cases hChange with
  | changed change hKept hAlone hStore =>
      subst hStore
      refine { hWell with controlsKeyed := ?_, cardOfControl := ?_ }
      · have hIds : (s.controls.map change).map (·.id) = s.controls.map (·.id) := by
          rw [List.map_map]
          exact List.map_congr_left fun r hr => (hKept r hr).1
        rw [hIds]
        exact hWell.controlsKeyed
      · intro r hr
        obtain ⟨old, hOld, rfl⟩ := List.mem_map.mp hr
        rw [(hKept old hOld).2]
        exact hWell.cardOfControl old hOld
  | added row hCard hFound hNew hStore =>
      subst hStore
      refine { hWell with controlsKeyed := nodup_map_concat hWell.controlsKeyed hNew, cardOfControl := ?_ }
      intro r hr
      rcases List.mem_append.mp hr with hOld | hLast
      · exact hWell.cardOfControl r hOld
      · obtain ⟨c, hMem, hId⟩ := hFound.imp fun _ => mem_of_card?
        rw [List.mem_singleton.mp hLast, hCard, ← hId]
        exact List.mem_map_of_mem hMem

theorem putControl {v : ControlValue} {row : ControlRow} (hWell : s.WellFormed)
    (hPut : s.putControl a id card v = .ok (row, next)) : next.WellFormed :=
  hWell.of_controlChange (hWell.controlChange_of_putControl hPut)

theorem putControls {controls : List ControlValue} {first : Nat} (hWell : s.WellFormed)
    (hPut : s.putControls a card first controls = .ok next) : next.WellFormed := by
  induction controls generalizing s first with
  | nil =>
      cases hPut
      exact hWell
  | cons control rest ih =>
      obtain ⟨put, hFirst, hRest⟩ := bind_eq_ok_iff.mp hPut
      exact ih (hWell.putControl hFirst) hRest

/-! ## Issued cards -/

theorem issueRows {controls : List ControlValue} {expiry : Instant} {index : Nat}
    {rows : List QueueRow} {result : List Card × Store} (hWell : s.WellFormed)
    (hIssue : s.issueRows a controls expiry index rows = .ok result) : result.2.WellFormed := by
  induction rows generalizing s index result with
  | nil =>
      cases hIssue
      exact hWell
  | cons r rest ih =>
      obtain ⟨draw, cvv, inserted, controlled, later, hInsert, hPut, hLater, rfl⟩ :=
        issueRows_cons_eq_ok hIssue
      have hLaterWell := ih ((hWell.insertCard hInsert).putControls hPut) hLater
      exact hLaterWell

theorem issue {settings : IssuanceSettings} {result : List Card × Store} (hWell : s.WellFormed)
    (hIssue : s.issue a settings company = .ok result) : result.2.WellFormed := by
  obtain ⟨-, expiry, later, hRows, rfl⟩ := issue_issuesRows hIssue
  exact (hWell.issueRows hRows).markGenerated

/-! ## Runs of the workflow -/

theorem overwriteBalance {held : Store} (hWell : s.WellFormed)
    (hHeld : s.overwriteBalance i card = .ok held) : held.WellFormed := by
  obtain ⟨balance, rfl⟩ := overwriteBalance_eq_ok hHeld
  exact hWell.modifyCard fun _ => rfl

theorem booked {c : Card} (hWell : s.WellFormed) (hId : ∀ c, (change c).id = c.id)
    (hCard : s.card? t.cardId = some c) : ((s.modifyCard id change).withTransaction t).WellFormed := by
  refine (hWell.modifyCard hId).withTransaction ?_
  obtain ⟨hMem, hSame⟩ := mem_of_card? hCard
  rw [modifyCard_ids hId, ← hSame]
  exact List.mem_map_of_mem hMem

theorem revised (hWell : s.WellFormed)
    (hRevised : ∃ change, Card.Revision change ∧ next = s.modifyCard id change) : next.WellFormed := by
  obtain ⟨change, hRevision, rfl⟩ := hRevised
  exact hWell.modifyCard hRevision.id

theorem of_apply {operation : Operation} (hWell : s.WellFormed)
    (hApply : operation.apply s a = .ok next) : next.WellFormed := by
  unfold Operation.apply at hApply
  cases operation with
  | registerCompany new =>
      obtain ⟨result, hRun, rfl⟩ := map_eq_ok_iff.mp hApply
      rw [registerCompany_eq_ok hRun]
      exact { hWell with }
  | setCompanyStatus company status =>
      obtain ⟨result, hRun, rfl⟩ := map_eq_ok_iff.mp hApply
      rw [setCompanyStatus_eq_ok hRun]
      exact { hWell with }
  | enqueue company employees =>
      obtain ⟨result, hRun, rfl⟩ := map_eq_ok_iff.mp hApply
      exact hWell.enqueue hRun
  | issue settings company =>
      obtain ⟨result, hRun, rfl⟩ := map_eq_ok_iff.mp hApply
      exact hWell.issue hRun
  | fundCard company card amount =>
      obtain ⟨result, hRun, rfl⟩ := map_eq_ok_iff.mp hApply
      obtain ⟨-, -, held, c, hHeld, hCard, rfl⟩ := fundCard_eq_ok hWell.cardsKeyed hRun
      exact (hWell.overwriteBalance hHeld).booked (fun _ => rfl) hCard
  | setSpendingLimit company card limit =>
      obtain ⟨result, hRun, rfl⟩ := map_eq_ok_iff.mp hApply
      exact hWell.revised (setSpendingLimit_eq_ok hRun)
  | setPeriodLimits company card daily monthly =>
      obtain ⟨result, hRun, rfl⟩ := map_eq_ok_iff.mp hApply
      exact hWell.revised (setPeriodLimits_eq_ok hRun)
  | blockCard company card reason =>
      obtain ⟨result, hRun, rfl⟩ := map_eq_ok_iff.mp hApply
      exact hWell.revised (blockCard_eq_ok hRun)
  | upsertControl company card control =>
      obtain ⟨result, hRun, rfl⟩ := map_eq_ok_iff.mp hApply
      obtain ⟨_, -, hRest⟩ := bind_eq_ok_iff.mp hRun
      obtain ⟨_, -, hPut⟩ := bind_eq_ok_iff.mp hRest
      exact hWell.putControl hPut
  | deactivateControl company card kind =>
      obtain ⟨result, hRun, rfl⟩ := map_eq_ok_iff.mp hApply
      exact hWell.of_controlChange (controlChange_of_deactivateControl hRun)
  | authorize z company r now =>
      obtain ⟨result, hRun, rfl⟩ := map_eq_ok_iff.mp hApply
      obtain ⟨-, -, -, card, advisories, -, hCommit⟩ := Authorizer.authorize_eq_ok hRun
      obtain ⟨-, -, held, c, _, hHeld, hCard, -, -, rfl⟩ :=
        Authorizer.commit_eq_ok hWell.cardsKeyed hCommit
      exact (hWell.overwriteBalance hHeld).booked (fun _ => rfl) hCard

/-- The tables are well-formed after every run of the workflow. -/
theorem run (hWell : s.WellFormed) (calls : List Call) : (s.run calls).WellFormed :=
  run_preserves of_apply hWell calls

end WellFormed

end CardLedger.Store
