import Mathlib.Data.List.Forall2
import CardLedger.Proofs.DefaultControls
import CardLedger.Proofs.IssueOutcome
import CardLedger.Proofs.NewCompanies
import CardLedger.Proofs.Procedures

/-!
# The effect of an issue call

What one call leaves behind. A call that fails leaves everything as it was. One that goes through appends
a card for each pending row of the company in queue order, marks exactly these rows, and gives each card
the last default control of each type; a second call right after it finds nothing to issue.
-/

namespace CardLedger

/-- The pending rows of a company in the order of their insertion. -/
def Store.pendingRows (s : Store) (company : Uuid) : List QueueRow :=
  s.queue.filter fun r => r.companyId == company && r.status == .pending

/-- Rows are the pending ones of a company in queue order: by the time of their creation as it is stored,
and by their insertion where this is the same. In the years of four digits it is the order of the
instants. -/
structure Store.InQueueOrder (s : Store) (company : Uuid) (rows : List QueueRow) : Prop where
  complete : rows.Perm (s.pendingRows company)
  ordered : rows.Pairwise fun r later => later.createdAt.storedBefore r.createdAt = false
  stable : ∀ text, rows.filter (fun r => r.createdAt.stored == text) =
    (s.pendingRows company).filter fun r => r.createdAt.stored == text
  chronological : (∀ r ∈ rows, r.createdAt.InWrittenYears) →
    rows.Pairwise fun r later => r.createdAt ≤ later.createdAt

/-- The new card of a queue row: it bears the identifier that the row holds ready, and is active, empty and
without limits. -/
structure Card.IsNewFor (c : Card) (r : QueueRow) (expiry : Instant) : Prop where
  face : c.face.IsOf r
  numbered : c.face.IsNumbered
  status : c.status? = some .active
  balance : c.balance = 0
  spendingLimit : c.spendingLimit = none
  dailyLimit : c.dailyLimit = none
  monthlyLimit : c.monthlyLimit = none
  expiry : c.expiry = expiry

/-- What issuing cards for the pending rows of a company does to a store. The default controls are told of
the new cards as far as the column of payloads gives them back as they were written. -/
structure Store.IssueEffect (s : Store) (a : Ambient) (settings : IssuanceSettings) (company : Uuid)
    (new : List Card) (next : Store) : Prop where
  issued : ∃ rows expiry, s.InQueueOrder company rows ∧
    a.now.addMonths? (validityMonths settings.validityYears) = some expiry ∧
    List.Forall₂ (fun r c => c.IsNewFor r expiry) rows new
  cards : next.cards = s.cards ++ new
  queue : next.queue = s.queue.map fun r =>
    if r.companyId = company ∧ r.status = .pending then
      { r with status := .generated, updatedAt := a.now }
    else r
  controls : ∃ added, next.controls = s.controls ++ added ∧ ∀ r ∈ added, r.cardId ∈ new.map (·.id)
  defaults : (∀ v ∈ settings.defaultControls, a.KeepsPayload v) →
    ∀ c ∈ new, next.activeControlValues c.id = .ok (lastOfEachType settings.defaultControls)
  companies : next.companies = s.companies
  transactions : next.transactions = s.transactions

namespace Store

variable {s next : Store} {a : Ambient} {company : Uuid} {settings : IssuanceSettings}
  {controls : List ControlValue} {expiry now : Instant} {rows : List QueueRow} {cards : List Card}

/-! ## The queue -/

theorem inQueueOrder_pending (s : Store) (company : Uuid) : s.InQueueOrder company (s.pending company) where
  complete := oldestFirst_perm
  ordered := pairwise_oldestFirst
  stable := filter_oldestFirst
  chronological := by
    intro hYears
    exact pairwise_oldestFirst.imp_of_mem fun hMem hLater =>
      Instant.le_of_not_storedBefore (hYears _ hMem) (hYears _ hLater)

/-- Under the key of the queue the rows that are marked are the pending ones of the company. -/
theorem marked_pending (hWell : s.WellFormed) {r : QueueRow} (hMem : r ∈ s.queue) :
    r.marked now (s.pending company) =
      if r.companyId = company ∧ r.status = .pending then { r with status := .generated, updatedAt := now }
      else r := by
  by_cases hTurn : r.companyId = company ∧ r.status = .pending
  · rw [if_pos hTurn, QueueRow.marked_of_mem ⟨r, mem_pending.mpr ⟨hMem, hTurn⟩, rfl⟩]
  · rw [if_neg hTurn, QueueRow.marked_of_not_mem]
    intro row hPending hId
    obtain ⟨hRow, hOwn⟩ := mem_pending.mp hPending
    exact hTurn (List.inj_on_of_nodup_map hWell.queueKeyed hRow hMem hId ▸ hOwn)

/-- Rows once marked are not pending any more. -/
theorem pending_of_marked (hQueue : next.queue = s.queue.map fun r =>
    if r.companyId = company ∧ r.status = .pending then { r with status := .generated, updatedAt := now }
    else r) : next.pending company = [] := by
  rw [List.eq_nil_iff_forall_not_mem]
  intro row hPending
  obtain ⟨hMem, hCompany, hStatus⟩ := mem_pending.mp hPending
  rw [hQueue] at hMem
  obtain ⟨r, -, rfl⟩ := List.mem_map.mp hMem
  by_cases hTurn : r.companyId = company ∧ r.status = .pending
  · rw [if_pos hTurn] at hStatus
    cases hStatus
  · rw [if_neg hTurn] at hCompany hStatus
    exact hTurn ⟨hCompany, hStatus⟩

theorem issue_of_nothing (hActive : s.IsActive company)
    (hControls : checkControls settings.defaultControls = .ok ()) (hNothing : s.pending company = []) :
    s.issue a settings company = .error (.nothingToIssue company) := by
  have hChecked : s.checkActive company = .ok () := checkActive_eq_ok_iff.mpr hActive
  unfold issue
  rw [hChecked, ok_bind, hControls, ok_bind, hNothing]
  rfl

/-! ## The new cards -/

theorem isNewFor_card (r : QueueRow) (draw : Nat → Nat) (cvv : String) (now expiry : Instant) :
    (r.card (Luhn.cardNumber draw) cvv now expiry).IsNewFor r expiry where
  face := r.isOf_face_card _ cvv now expiry
  numbered := r.isNumbered_face_card draw cvv now expiry
  status := status?_eq_some_iff.mpr rfl
  balance := rfl
  spendingLimit := rfl
  dailyLimit := rfl
  monthlyLimit := rfl
  expiry := rfl

theorem issueRows_forall₂ {index : Nat} {result : List Card × Store}
    (hIssue : s.issueRows a controls expiry index rows = .ok result) :
    List.Forall₂ (fun r c => c.IsNewFor r expiry) rows result.1 := by
  induction rows generalizing s index result with
  | nil =>
      cases hIssue
      exact .nil
  | cons r rest ih =>
      obtain ⟨draw, cvv, inserted, controlled, later, -, -, hLater, rfl⟩ :=
        issueRows_cons_eq_ok hIssue
      exact .cons (isNewFor_card r _ _ a.now expiry) (ih hLater)

theorem filter_block {card : Uuid} {front own back : List ControlRow}
    (hFront : ∀ r ∈ front, r.cardId ≠ card) (hOwn : ∀ r ∈ own, r.cardId = card)
    (hBack : ∀ r ∈ back, r.cardId ≠ card) :
    (front ++ own ++ back).filter (fun r => r.cardId == card) = own := by
  rw [List.filter_append, List.filter_append, List.filter_eq_nil_iff.mpr (by simpa using hFront),
    List.filter_eq_self.mpr (by simpa using hOwn), List.filter_eq_nil_iff.mpr (by simpa using hBack)]
  simp

/-- Each card that is issued has rows of controls for the last default of each type. -/
theorem issueRows_hold {index : Nat} {result : List Card × Store} (hWell : s.WellFormed)
    (hKeeps : ∀ v ∈ controls, a.KeepsPayload v)
    (hIssue : s.issueRows a controls expiry index rows = .ok result) :
    ∀ c ∈ result.1, HoldControls a.now c.id (result.2.controls.filter fun r => r.cardId == c.id)
      (lastOfEachType controls) := by
  induction rows generalizing s index result with
  | nil =>
      cases hIssue
      simp
  | cons r rest ih =>
      obtain ⟨draw, cvv, inserted, controlled, later, hInsert, hPut, hLater, rfl⟩ :=
        issueRows_cons_eq_ok hIssue
      have hInsertedWell := hWell.insertCard hInsert
      have hControlledWell := hInsertedWell.putControls hPut
      obtain ⟨hInserted, hNew⟩ := insertCard_eq_ok hInsert
      have hOthers : ∀ old ∈ inserted.controls, old.cardId ≠ r.cardId := by
        rw [hInserted]
        exact hWell.cardId_ne_of_unused hNew
      obtain ⟨own, hControlled, hOwn⟩ := putControls_of_unused hInsertedWell hOthers hKeeps hPut
      obtain ⟨added, hAdded, hOf⟩ := issueRows_controls hControlledWell hLater
      obtain ⟨hStore, hKeyed, -⟩ := issueRows_eq_ok hControlledWell.cardsKeyed hLater
      refine List.forall_mem_cons.mpr ⟨?_, ih hControlledWell hLater⟩
      -- of all rows the ones of this card are those that have been written for it
      have hAddedOthers : ∀ row ∈ added, row.cardId ≠ r.cardId := by
        intro row hMem hSame
        unfold CardsKeyed at hKeyed
        rw [hStore, List.map_append, List.nodup_append] at hKeyed
        refine hKeyed.2.2 r.cardId ?_ row.cardId (hOf row hMem) hSame.symm
        rw [putControls_eq_ok hPut, hInserted]
        simp [QueueRow.card]
      have hRows : later.2.controls.filter (fun row => row.cardId == r.cardId) = own := by
        rw [hAdded, hControlled]
        exact filter_block hOthers hOwn.card hAddedOthers
      exact hRows ▸ hOwn

/-! ## The call -/

theorem isActive_of_companies (hCompanies : next.companies = s.companies) (hActive : s.IsActive company) :
    next.IsActive company := by
  unfold IsActive company? at hActive ⊢
  rwa [hCompanies]

theorem checks_of_issue {result : List Card × Store} (hIssue : s.issue a settings company = .ok result) :
    firstFailure (s.issueChecks a.now settings company) = none := by
  cases hChecks : firstFailure (s.issueChecks a.now settings company) with
  | none => rfl
  | some e =>
      rw [issue_of_check hChecks] at hIssue
      cases hIssue

theorem issueEffect_of_issue (hWell : s.WellFormed) (hIssue : s.issue a settings company = .ok (cards, next)) :
    s.IssueEffect a settings company cards next := by
  have hFrame := issue_frame hIssue
  obtain ⟨expiry, hExpiry, hWritten⟩ := issue_of_checks (checks_of_issue hIssue)
  rw [hWritten] at hIssue
  obtain ⟨⟨new, written⟩, hRows, hResult⟩ := map_eq_ok_iff.mp hIssue
  cases hResult
  obtain ⟨hStore, -⟩ := issueRows_eq_ok hWell.cardsKeyed hRows
  dsimp only at hStore
  have hQueue : (written.markGenerated a.now (s.pending company)).queue = s.queue.map fun r =>
      if r.companyId = company ∧ r.status = .pending then
        { r with status := .generated, updatedAt := a.now } else r := by
    unfold markGenerated
    rw [hStore]
    exact List.map_congr_left fun r hMem => marked_pending hWell hMem
  exact
    { issued := ⟨_, expiry, s.inQueueOrder_pending company, hExpiry, issueRows_forall₂ hRows⟩
      cards := congrArg Store.cards hStore
      queue := hQueue
      controls := issueRows_controls hWell hRows
      defaults := fun hKeeps c hMem =>
        activeControlValues_of_hold (issueRows_hold hWell hKeeps hRows c hMem)
      companies := (congrArg Store.companies hFrame :)
      transactions := (congrArg Store.transactions hFrame :) }

theorem after_of_issue_error {e : Error} (hFails : s.issue a settings company = .error e)
    (hAlone : a.interference.balanceAfterRecord = none) : s.after ⟨.issue settings company, a, hAlone⟩ = s := by
  have hApply : (Operation.issue settings company).apply s a = .error e := by
    change (s.issue a settings company).map (·.2) = .error e
    rw [hFails]
    rfl
  exact after_of_error hApply

/-- **The effect of one issue call.** The checks of the company, of each default control, of the queue and
of the calendar are made in this order before anything is written; a call that fails does so over the
first of them that does not hold, or because the tables refuse a row, and leaves the store as it was. A
call that goes through issues a card for each pending row of the company in queue order, marks these rows
and no others, gives each card the last default control of each type, and leaves all else alone; a second
call right after it finds nothing to issue. As long as the identifiers held ready by the queue and those
drawn are new, and payloads can be read back, the checks alone decide. Taken step by step the call comes to
the same, and where the database fails or others write in between, a call that ends with an error leaves
the tables to the others. -/
theorem issue_effect (hWell : s.WellFormed) (hDistinct : ((s.pendingRows company).map (·.cardId)).Nodup)
    (hNew : ∀ r ∈ s.pendingRows company, ∀ c ∈ s.cards, c.id ≠ r.cardId) :
    (∀ e, s.issue a settings company = .error e →
      (firstFailure (s.issueChecks a.now settings company) = some e ∨ e.IsOfTables) ∧
      ∀ hAlone, s.after ⟨.issue settings company, a, hAlone⟩ = s) ∧
    (∀ cards next, s.issue a settings company = .ok (cards, next) →
      s.IssueEffect a settings company cards next ∧
      ∀ later : Ambient, next.issue later settings company = .error (.nothingToIssue company) ∧
        ∀ hAlone, next.after ⟨.issue settings company, later, hAlone⟩ = next) ∧
    (a.FreshFor s ((Operation.issue settings company).draws s) →
      (∀ v ∈ settings.defaultControls, (a.jsonColumn v.toPayload).isSome) →
      (∀ e, s.issue a settings company = .error e ↔
        firstFailure (s.issueChecks a.now settings company) = some e) ∧
      ((∃ cards next, s.issue a settings company = .ok (cards, next)) ↔
        firstFailure (s.issueChecks a.now settings company) = none)) ∧
    (∃ n, (Execution.start (Procedure.issue a settings company) s).run none (List.replicate n .advance) =
      some (.conclude s (s.issue a settings company))) ∧
    ∀ events tables e, (Execution.start (Procedure.issue a settings company) s).run none events =
      some ⟨tables, .ended (.error e)⟩ → tables = leftByOthers s events := by
  refine ⟨fun e hFails => ⟨?_, after_of_issue_error hFails⟩, ?_, ?_, ?_, ?_⟩
  · exact (issue_eq_error_cases hFails).imp_right And.right
  · intro cards next hIssue
    have hEffect := issueEffect_of_issue hWell hIssue
    have hChecks := checks_of_issue hIssue
    refine ⟨hEffect, fun later => ?_⟩
    have hNothing : next.issue later settings company = .error (.nothingToIssue company) := by
      obtain ⟨hActive, -⟩ := issue_issuesRows hIssue
      refine issue_of_nothing (isActive_of_companies hEffect.companies hActive) ?_
        (pending_of_marked hEffect.queue)
      obtain ⟨hFirst, -⟩ := firstFailure_append_eq_none.mp hChecks
      rw [checkControls_eq_settle, settle_of_none (firstFailure_append_eq_none.mp hFirst).2]
    exact ⟨hNothing, after_of_issue_error hNothing⟩
  · intro hFresh hReadable
    have hOk : firstFailure (s.issueChecks a.now settings company) = none →
        ∃ cards next, s.issue a settings company = .ok (cards, next) := by
      intro hNone
      have hRows : (s.pending company).Perm (s.pendingRows company) := oldestFirst_perm
      obtain ⟨⟨cards, next⟩, hIssue⟩ := issue_succeeds ((hRows.map _).nodup_iff.mpr hDistinct)
        (fun r hMem => hNew r (hRows.mem_iff.mp hMem)) hFresh hReadable hNone
      exact ⟨cards, next, hIssue⟩
    refine ⟨fun e => ⟨fun hFails => ?_, issue_of_check⟩, ?_, hOk⟩
    · refine (issue_eq_error_cases hFails).resolve_right fun hTables => ?_
      obtain ⟨cards, next, hIssue⟩ := hOk hTables.1
      rw [hIssue] at hFails
      cases hFails
    · rintro ⟨cards, next, hIssue⟩
      exact checks_of_issue hIssue
  · rw [← Procedure.result_issue]
    exact Execution.run_alone none _ s
  · intro events tables e hRun
    exact Execution.tables_of_error hRun

end Store

namespace Sample

/-- A company is registered and two employees are queued. -/
def queuedTwo : List Call :=
  [call 1 (.registerCompany ⟨"Acme", "office@acme.example", none, none⟩),
    call 2 (.enqueue tenant [⟨.ofNat 7, "ada@acme.example"⟩, ⟨.ofNat 8, "bob@acme.example"⟩])]

/-- Settings that set a category rule, a time window, and the category rule again. -/
def repeatedDefaults : IssuanceSettings :=
  { defaultControls :=
      [.merchantCategory ⟨[], ["gambling"]⟩, .timeBased ⟨"08:00", "20:00"⟩, .merchantCategory ⟨["food"], []⟩] }

end Sample

/-- Both employees get a card with the later category rule in front of the time window, and there is
nothing left to issue after that. -/
theorem issue_effect_of_sample :
    let s := Store.run {} Sample.queuedTwo
    let a := Sample.surroundings 3
    a.FreshFor s ((Operation.issue Sample.repeatedDefaults Sample.tenant).draws s) ∧
      ∃ first second next,
        s.issue a Sample.repeatedDefaults Sample.tenant = .ok ([first, second], next) ∧
        (∀ c ∈ [first, second], next.activeControlValues c.id =
          .ok [.merchantCategory ⟨["food"], []⟩, .timeBased ⟨"08:00", "20:00"⟩]) ∧
        next.issue (Sample.surroundings 4) Sample.repeatedDefaults Sample.tenant =
          .error (.nothingToIssue Sample.tenant) := by
  intro s a
  have hWell : s.WellFormed := Store.WellFormed.empty.run Sample.queuedTwo
  have hCount : (s.pending Sample.tenant).length = 2 :=
    (s.inQueueOrder_pending Sample.tenant).complete.length_eq.trans (by decide +kernel)
  have hFresh : a.FreshFor s ((Operation.issue Sample.repeatedDefaults Sample.tenant).draws s) := by
    rw [Operation.draws, hCount]
    decide +kernel
  have hChecks : firstFailure (s.issueChecks a.now Sample.repeatedDefaults Sample.tenant) = none := by
    rw [← Option.isNone_iff_eq_none]
    decide +kernel
  have hDistinct : ((s.pendingRows Sample.tenant).map (·.cardId)).Nodup := by decide +kernel
  have hNew : ∀ r ∈ s.pendingRows Sample.tenant, ∀ c ∈ s.cards, c.id ≠ r.cardId := by decide +kernel
  obtain ⟨-, hOk, hDecided, -⟩ := Store.issue_effect (a := a) hWell hDistinct hNew
  obtain ⟨cards, next, hIssue⟩ := (hDecided hFresh fun _ _ => rfl).2.mpr hChecks
  obtain ⟨hEffect, hAgain⟩ := hOk cards next hIssue
  obtain ⟨rows, expiry, hRows, -, hEach⟩ := hEffect.issued
  have hTwo : rows.length = 2 := hRows.complete.length_eq.trans (by decide +kernel)
  obtain ⟨first, second, rfl⟩ := List.length_eq_two.mp (hEach.length_eq.symm.trans hTwo)
  exact ⟨hFresh, first, second, next, hIssue, hEffect.defaults fun _ _ => rfl, (hAgain _).1⟩

end CardLedger
