import CardLedger.Proofs.TenantControls

/-!
# Queue and issuance in the part of a company

Employees are queued under fresh identifiers, and the pending rows of a company become its cards with
their default controls. The identifiers of the new cards were drawn when their rows were queued, so that
what has to be known of them is a matter of the store: no card of another company has one of them.
-/

namespace CardLedger

variable {s next : Store} {a : Ambient} {company tenant id : Uuid} {count : Nat} {now : Instant}

namespace Store

/-! ## The queue -/

section

variable {r : QueueRow} {rows : List QueueRow}

theorem insertQueueRow_view (hCompany : r.companyId = company)
    (hFree : ∀ old ∈ s.queue, old.id = r.id → old.companyId = company) :
    (s.view company).insertQueueRow r = (s.insertQueueRow r).map (·.view company) := by
  have hUsed : ((s.view company).queue.any fun old => old.id == r.id) =
      s.queue.any fun old => old.id == r.id :=
    any_filter_of_imp fun old hOld hId => beq_iff_eq.mpr (hFree old hOld (beq_iff_eq.mp hId))
  have hRows : (s.queue ++ [r]).filter (fun r => r.companyId == company) =
      (s.queue.filter fun r => r.companyId == company) ++ [r] := by
    rw [List.filter_append, List.filter_singleton, hCompany, beq_self_eq_true]
    rfl
  unfold insertQueueRow
  rw [hUsed, hCompany, company?_view]
  split
  · rfl
  · split
    · rfl
    · exact congrArg (fun rows => Except.ok { s.view company with queue := rows }) hRows.symm

theorem insertQueueRows_view (hCompany : ∀ r ∈ rows, r.companyId = company)
    (hFree : ∀ old ∈ s.queue, ∀ r ∈ rows, old.id = r.id → old.companyId = company) :
    (s.view company).insertQueueRows rows = (s.insertQueueRows rows).map (·.view company) := by
  induction rows generalizing s with
  | nil => rfl
  | cons r rest ih =>
      unfold insertQueueRows
      rw [insertQueueRow_view (hCompany r List.mem_cons_self)
        fun old hOld => hFree old hOld r List.mem_cons_self]
      refine map_bind fun queued hInsert => ih (fun row hRow => hCompany row (.tail r hRow)) ?_
      obtain ⟨-, hRest⟩ := unless_eq_ok_iff.mp hInsert
      obtain ⟨-, hStore⟩ := unless_eq_ok_iff.mp hRest
      cases hStore
      intro old hOld row hRow hId
      rcases List.mem_append.mp hOld with hBefore | hJust
      · exact hFree old hBefore row (.tail r hRow) hId
      · rw [List.mem_singleton.mp hJust]
        exact hCompany r List.mem_cons_self

/-- Queue rows of a company are none to other companies. -/
theorem agreeOn_of_insertQueueRows (hCompany : ∀ r ∈ rows, r.companyId = company)
    (hOther : tenant ≠ company) (hInsert : s.insertQueueRows rows = .ok next) :
    s.AgreeOn next tenant := by
  rw [insertQueueRows_eq_ok hInsert]
  refine ⟨?_, rfl⟩
  have hRows : (s.queue ++ rows).filter (fun r => r.companyId == tenant) =
      s.queue.filter fun r => r.companyId == tenant := by
    have hNone : rows.filter (fun r => r.companyId == tenant) = [] := by
      refine List.filter_eq_nil_iff.mpr fun r hr hTenant => ?_
      exact hOther ((beq_iff_eq.mp hTenant).symm.trans (hCompany r hr))
    rw [List.filter_append, hNone, List.append_nil]
  exact (congrArg (fun rows => { s.view tenant with queue := rows }) hRows).symm

theorem companyId_of_queueRows {employees : List EmployeeRecord} :
    ∀ r ∈ employees.zipIdx.map (fun (e, i) =>
      e.queueRow company (a.freshId (2 * i)) (a.freshId (2 * i + 1)) now), r.companyId = company := by
  intro r hr
  obtain ⟨_, -, rfl⟩ := List.mem_map.mp hr
  rfl

theorem enqueue_view {employees : List EmployeeRecord}
    (hFree : ∀ r ∈ s.queue, ∀ i < 2 * employees.length, r.id ≠ a.freshId i) :
    (s.view company).enqueue a company employees = seenBy company (s.enqueue a company employees) := by
  unfold enqueue
  rw [checkActive_view]
  refine seenBy_unless ?_
  cases firstBlankEmail? employees with
  | some position => rfl
  | none =>
      refine seenBy_check fun _ _ => seenBy_check fun _ _ => ?_
      dsimp only
      rw [insertQueueRows_view companyId_of_queueRows]
      · exact map_bind fun queued _ => rfl
      · intro old hOld r hr hId
        obtain ⟨⟨e, i⟩, hMem, rfl⟩ := List.mem_map.mp hr
        have hIndex := (List.mem_zipIdx hMem).2.1
        exact absurd hId (hFree old hOld (2 * i) (by omega))

theorem effect_of_enqueue {employees : List EmployeeRecord} {result : List QueueRow × Store}
    (hEnqueue : s.enqueue a company employees = .ok result) : s.TenantEffect result.2 company [] := by
  obtain ⟨-, hRows, hInsert⟩ := enqueue_inserts hEnqueue
  refine .of_transactions (by rw [insertQueueRows_eq_ok hInsert]) fun tenant hOther => ?_
  refine agreeOn_of_insertQueueRows ?_ hOther hInsert
  rw [hRows]
  exact companyId_of_queueRows

theorem markGenerated_view :
    (s.markGenerated now rows).view company = (s.view company).markGenerated now rows := by
  have hRows : (s.markGenerated now rows).queue.filter (fun r => r.companyId == company) =
      ((s.view company).markGenerated now rows).queue := by
    unfold markGenerated
    rw [List.filter_map]
    refine congrArg _ (List.filter_congr fun r _ => ?_)
    rw [Function.comp_apply]
    split
    · rfl
    · rfl
  exact congrArg (fun rows => { s.view company with queue := rows }) hRows

/-- Marking rows of a company is nothing to other companies. -/
theorem agreeOn_markGenerated (hKeyed : (s.queue.map (·.id)).Nodup) (hMem : ∀ r ∈ rows, r ∈ s.queue)
    (hCompany : ∀ r ∈ rows, r.companyId = company) (hOther : tenant ≠ company) :
    s.AgreeOn (s.markGenerated now rows) tenant := by
  refine ⟨?_, rfl⟩
  have hRows : ((s.view tenant).markGenerated now rows).queue = (s.view tenant).queue := by
    refine (List.map_congr_left fun r hr => ?_).trans (List.map_id' _)
    obtain ⟨hRow, hTenant⟩ := List.mem_filter.mp hr
    -- rows are marked by their identifiers, and no row of the other company has one of these
    refine if_neg fun hMarked => ?_
    obtain ⟨marked, hIn, hId⟩ := List.any_eq_true.mp hMarked
    have hSame := List.inj_on_of_nodup_map hKeyed (hMem marked hIn) hRow (beq_iff_eq.mp hId)
    have hOf := hCompany marked hIn
    rw [hSame] at hOf
    exact hOther ((beq_iff_eq.mp hTenant).symm.trans hOf)
  rw [markGenerated_view]
  exact (congrArg (fun rows => { s.view tenant with queue := rows }) hRows).symm

end

/-! ## Controls of a new card -/

section

variable {card : Uuid} {controls : List ControlValue} {first : Nat}

theorem putControls_view (hWell : s.WellFormed) (hOwned : s.owns company card = true)
    (hFree : s.ControlsFree company a count) (hCount : first + controls.length ≤ count) :
    (s.view company).putControls a card first controls =
      (s.putControls a card first controls).map (·.view company) := by
  induction controls generalizing s first with
  | nil => rfl
  | cons control rest ih =>
      rw [List.length_cons] at hCount
      unfold putControls
      rw [putControl_view hWell hOwned fun r hr => hFree r hr first (by omega)]
      refine map_bind fun put hPut => ?_
      have hChange := hWell.controlChange_of_putControl hPut
      exact ih (hWell.of_controlChange hChange) ((owns_of_controlChange hChange).trans hOwned)
        (hFree.of_controlChange hOwned hChange) (by omega)

theorem ControlsFree.putControls (hFree : s.ControlsFree company a count) (hWell : s.WellFormed)
    (hOwned : s.owns company card = true) (hPut : s.putControls a card first controls = .ok next) :
    next.ControlsFree company a count := by
  induction controls generalizing s first with
  | nil =>
      cases hPut
      exact hFree
  | cons control rest ih =>
      obtain ⟨put, hFirst, hRest⟩ := bind_eq_ok_iff.mp hPut
      have hChange := hWell.controlChange_of_putControl hFirst
      exact ih (hFree.of_controlChange hOwned hChange) (hWell.of_controlChange hChange)
        ((owns_of_controlChange hChange).trans hOwned) hRest

theorem agreeOn_of_putControls (hWell : s.WellFormed) (hOwned : s.owns company card = true)
    (hOther : tenant ≠ company) (hPut : s.putControls a card first controls = .ok next) :
    s.AgreeOn next tenant := by
  induction controls generalizing s first with
  | nil =>
      cases hPut
      exact .refl _ tenant
  | cons control rest ih =>
      obtain ⟨put, hFirst, hRest⟩ := bind_eq_ok_iff.mp hPut
      have hChange := hWell.controlChange_of_putControl hFirst
      exact (agreeOn_of_controlChange hWell hOwned hOther hChange).trans
        (ih (hWell.of_controlChange hChange) ((owns_of_controlChange hChange).trans hOwned) hRest)

end

/-! ## New cards -/

section

variable {c : Card}

theorem owns_withCard : { s with cards := s.cards ++ [c] }.owns company id =
    (s.owns company id || (c.id == id && c.companyId == company)) := by
  unfold owns
  rw [List.any_append, List.any_cons, List.any_nil, Bool.or_false]

/-- Nothing refers to a card yet that is new. -/
theorem view_withCard (hWell : s.WellFormed) (hNew : ∀ d ∈ s.cards, d.id ≠ c.id)
    (hCompany : c.companyId = company) :
    { s with cards := s.cards ++ [c] }.view company =
      { s.view company with cards := (s.view company).cards ++ [c] } := by
  -- transactions and controls refer to cards that were there before, and whose these are has not changed
  have hOwns : ∀ id ∈ s.cards.map (·.id),
      { s with cards := s.cards ++ [c] }.owns company id = s.owns company id := by
    intro id hId
    obtain ⟨d, hd, rfl⟩ := List.mem_map.mp hId
    rw [owns_withCard, beq_eq_false_iff_ne.mpr (Ne.symm (hNew d hd)), Bool.false_and, Bool.or_false]
  have hCards : (s.cards ++ [c]).filter (fun c => c.companyId == company) =
      (s.cards.filter fun c => c.companyId == company) ++ [c] := by
    rw [List.filter_append, List.filter_singleton, hCompany, beq_self_eq_true]
    rfl
  have hTransactions : s.transactions.filter (fun t =>
      { s with cards := s.cards ++ [c] }.owns company t.cardId) =
        s.transactions.filter fun t => s.owns company t.cardId :=
    List.filter_congr fun t ht => hOwns t.cardId (hWell.cardOfTransaction t ht)
  have hControls : s.controls.filter (fun r =>
      { s with cards := s.cards ++ [c] }.owns company r.cardId) =
        s.controls.filter fun r => s.owns company r.cardId :=
    List.filter_congr fun r hr => hOwns r.cardId (hWell.cardOfControl r hr)
  unfold view
  rw [hCards, hTransactions, hControls]

/-- A card of a company is none to other companies. -/
theorem agreeOn_withCard (hOther : tenant ≠ company) (hCompany : c.companyId = company) :
    s.AgreeOn { s with cards := s.cards ++ [c] } tenant := by
  have hNot : (c.companyId == tenant) = false := by
    rw [hCompany]
    exact beq_eq_false_iff_ne.mpr (Ne.symm hOther)
  have hOwns : { s with cards := s.cards ++ [c] }.owns tenant = s.owns tenant := by
    funext id
    rw [owns_withCard, hNot, Bool.and_false, Bool.or_false]
  have hCards : (s.cards ++ [c]).filter (fun c => c.companyId == tenant) =
      s.cards.filter fun c => c.companyId == tenant := by
    rw [List.filter_append, List.filter_singleton, hNot]
    exact List.append_nil _
  refine ⟨?_, rfl⟩
  unfold view
  rw [hOwns, hCards]

theorem insertCard_view (hWell : s.WellFormed) (hCompany : c.companyId = company)
    (hFree : ∀ d ∈ s.cards, d.id = c.id → d.companyId = company) :
    (s.view company).insertCard c = (s.insertCard c).map (·.view company) := by
  have hUsed : ((s.view company).cards.any fun old => old.id == c.id) =
      s.cards.any fun old => old.id == c.id :=
    any_filter_of_imp fun d hd hId => beq_iff_eq.mpr (hFree d hd (beq_iff_eq.mp hId))
  unfold insertCard
  rw [hUsed, hCompany, company?_view]
  split
  · rfl
  · next hNew =>
      split
      · rfl
      · split
        · rfl
        · exact congrArg Except.ok (view_withCard hWell (by simpa using hNew) hCompany).symm

theorem owns_of_insertCard (hCompany : c.companyId = company) (hInsert : s.insertCard c = .ok next) :
    next.owns company c.id = true := by
  obtain ⟨rfl, -⟩ := insertCard_eq_ok hInsert
  rw [owns_withCard, hCompany, beq_self_eq_true, beq_self_eq_true, Bool.and_self, Bool.or_true]

theorem ControlsFree.insertCard (hFree : s.ControlsFree company a count)
    (hInsert : s.insertCard c = .ok next) : next.ControlsFree company a count := by
  obtain ⟨rfl, -⟩ := insertCard_eq_ok hInsert
  intro r hr i hDrawn hId
  rw [owns_withCard, hFree r hr i hDrawn hId, Bool.true_or]

end

/-! ## Issuing -/

section

variable {controls : List ControlValue} {expiry : Instant} {index : Nat} {rows : List QueueRow}

theorem issueRows_view (hWell : s.WellFormed) (hFree : s.ControlsFree company a count)
    (hCompany : ∀ r ∈ rows, r.companyId = company)
    (hCards : ∀ r ∈ rows, ∀ c ∈ s.cards, c.id = r.cardId → c.companyId = company)
    (hCount : controls.length * (index + rows.length) ≤ count) :
    (s.view company).issueRows a controls expiry index rows =
      seenBy company (s.issueRows a controls expiry index rows) := by
  induction rows generalizing s index with
  | nil => rfl
  | cons r rest ih =>
      have hOf := hCompany r List.mem_cons_self
      have hLast : controls.length * index + controls.length ≤ count := by
        rw [← Nat.mul_succ]
        exact (Nat.mul_le_mul_left _ (by simp)).trans hCount
      -- the card of the first row, then its controls, then the cards of the other rows
      unfold issueRows
      dsimp only
      rw [insertCard_view hWell hOf (hCards r List.mem_cons_self)]
      refine map_bind fun inserted hInsert => ?_
      have hInserted := hWell.insertCard hInsert
      have hOwned := owns_of_insertCard hOf hInsert
      have hFreeInserted := hFree.insertCard hInsert
      rw [putControls_view hInserted hOwned hFreeInserted hLast]
      refine map_bind fun controlled hPut => ?_
      have hLater : ∀ row ∈ rest, ∀ c ∈ controlled.cards, c.id = row.cardId → c.companyId = company := by
        rw [putControls_eq_ok hPut, (insertCard_eq_ok hInsert).1]
        intro row hRow c hc hId
        rcases List.mem_append.mp hc with hOld | hJust
        · exact hCards row (.tail r hRow) c hOld hId
        · rw [List.mem_singleton.mp hJust]
          exact hOf
      rw [ih (hInserted.putControls hPut) (hFreeInserted.putControls hInserted hOwned hPut)
        (fun row hRow => hCompany row (.tail r hRow)) hLater]
      · exact map_bind fun issued _ => rfl
      · rw [List.length_cons] at hCount
        rwa [Nat.add_right_comm, Nat.add_assoc]

theorem agreeOn_of_issueRows {result : List Card × Store} (hWell : s.WellFormed)
    (hCompany : ∀ r ∈ rows, r.companyId = company) (hOther : tenant ≠ company)
    (hIssue : s.issueRows a controls expiry index rows = .ok result) : s.AgreeOn result.2 tenant := by
  induction rows generalizing s index result with
  | nil =>
      cases hIssue
      exact .refl s tenant
  | cons r rest ih =>
      have hOf := hCompany r List.mem_cons_self
      obtain ⟨draw, cvv, inserted, controlled, later, hInsert, hPut, hLater, rfl⟩ :=
        issueRows_cons_eq_ok hIssue
      have hInserted := hWell.insertCard hInsert
      have hCard : s.AgreeOn inserted tenant := by
        rw [(insertCard_eq_ok hInsert).1]
        exact agreeOn_withCard hOther hOf
      have hControls := agreeOn_of_putControls hInserted (owns_of_insertCard hOf hInsert) hOther hPut
      have hRows := ih (hInserted.putControls hPut) (fun row hRow => hCompany row (.tail r hRow)) hLater
      exact (hCard.trans hControls).trans hRows

theorem issue_view {settings : IssuanceSettings} (hWell : s.WellFormed)
    (hFree : s.ControlsFree company a (settings.defaultControls.length * (s.pending company).length))
    (hCards : ∀ r ∈ s.pending company, ∀ c ∈ s.cards, c.id ≠ r.cardId) :
    (s.view company).issue a settings company = seenBy company (s.issue a settings company) := by
  unfold issue
  rw [checkActive_view, pending_view]
  refine seenBy_check fun _ _ => seenBy_check fun _ _ => seenBy_unless ?_
  refine seenBy_check fun expiry _ => ?_
  dsimp only
  rw [issueRows_view hWell hFree (fun r hr => (mem_pending.mp hr).2.1)
    (fun r hr c hc hId => absurd hId (hCards r hr c hc)) (by simp)]
  refine map_bind fun later _ => ?_
  exact congrArg Except.ok (congrArg (Prod.mk _) markGenerated_view.symm)

theorem effect_of_issue {settings : IssuanceSettings} {result : List Card × Store}
    (hWell : s.WellFormed) (hIssue : s.issue a settings company = .ok result) :
    s.TenantEffect result.2 company [] := by
  obtain ⟨-, expiry, later, hRows, rfl⟩ := issue_issuesRows hIssue
  have hStore := (issueRows_eq_ok hWell.cardsKeyed hRows).1
  have hCompany : ∀ r ∈ s.pending company, r.companyId = company := fun r hr => (mem_pending.mp hr).2.1
  have hMem : ∀ r ∈ s.pending company, r ∈ later.2.queue := by
    rw [hStore]
    exact fun r hr => (mem_pending.mp hr).1
  refine .of_transactions (by rw [markGenerated, hStore]) fun tenant hOther => ?_
  exact (agreeOn_of_issueRows hWell hCompany hOther hRows).trans
    (agreeOn_markGenerated (hWell.issueRows hRows).queueKeyed hMem hCompany hOther)

end

end Store

end CardLedger
