import CardLedger.Proofs.IssuedCards
import CardLedger.Proofs.Onboarding
import CardLedger.Proofs.References
import CardLedger.Proofs.WellFormed

/-!
# What onboarding adds

Onboarding adds rows at the end of the tables and leaves all others alone. The rows that it adds belong
together: a company that was not known before, queue rows and cards of this company, and controls of
these cards. The issue of cards goes through the queue and the controls of the whole ledger, but finds in
them only what belongs to the new company.
-/

namespace CardLedger

/-- Rows for the tables of a ledger. -/
structure NewRows where
  companies : List Company := []
  queue : List QueueRow := []
  cards : List Card := []
  controls : List ControlRow := []

/-- Rows and more rows. -/
def NewRows.append (new more : NewRows) : NewRows :=
  { companies := new.companies ++ more.companies, queue := new.queue ++ more.queue
    cards := new.cards ++ more.cards, controls := new.controls ++ more.controls }

/-- The store with rows added at the end of its tables. -/
def Store.withRows (s : Store) (new : NewRows) : Store :=
  { s with
    companies := s.companies ++ new.companies, queue := s.queue ++ new.queue
    cards := s.cards ++ new.cards, controls := s.controls ++ new.controls }

@[simp]
theorem Store.withRows_nothing (s : Store) : s.withRows {} = s := by
  simp [Store.withRows]

theorem Store.withRows_append (s : Store) (new more : NewRows) :
    s.withRows (new.append more) = (s.withRows new).withRows more := by
  simp [Store.withRows, NewRows.append]

/-- New rows are those of companies from a list of seeds that were not known before: the companies are
new by identifier and address, queue rows and cards are theirs, and the controls are of these cards. -/
structure NewRows.Onboard (new : NewRows) (s : Store) (seeds : List CompanySeed) : Prop where
  seeded : ∀ c ∈ new.companies, ∃ seed ∈ seeds, c.email = Text.normalize seed.email
  unknown : ∀ c ∈ new.companies, ∀ old ∈ s.companies, old.id ≠ c.id ∧ old.email ≠ c.email
  queue : ∀ r ∈ new.queue, r.companyId ∈ new.companies.map (·.id)
  cards : ∀ c ∈ new.cards, c.companyId ∈ new.companies.map (·.id)
  unused : ∀ c ∈ new.cards, ∀ old ∈ s.cards, old.id ≠ c.id
  controls : ∀ r ∈ new.controls, r.cardId ∈ new.cards.map (·.id)

namespace NewRows.Onboard

variable {s : Store} {new more : NewRows} {seeds others : List CompanySeed}

theorem nothing : NewRows.Onboard {} s seeds := by
  constructor <;> simp

theorem mono (hOnboard : new.Onboard s seeds) (hMore : seeds ⊆ others) : new.Onboard s others := by
  refine { hOnboard with seeded := fun c hMem => ?_ }
  obtain ⟨seed, hSeed, hEmail⟩ := hOnboard.seeded c hMem
  exact ⟨seed, hMore hSeed, hEmail⟩

theorem append (hFirst : new.Onboard s seeds) (hSecond : more.Onboard (s.withRows new) seeds) :
    (new.append more).Onboard s seeds where
  seeded c hMem := (List.mem_append.mp hMem).elim (hFirst.seeded c) (hSecond.seeded c)
  unknown c hMem old hOld := by
    rcases List.mem_append.mp hMem with hNew | hMore
    · exact hFirst.unknown c hNew old hOld
    · exact hSecond.unknown c hMore old (List.mem_append_left _ hOld)
  queue r hMem := by
    rw [NewRows.append, List.map_append]
    exact List.mem_append.mpr ((List.mem_append.mp hMem).imp (hFirst.queue r) (hSecond.queue r))
  cards c hMem := by
    rw [NewRows.append, List.map_append]
    exact List.mem_append.mpr ((List.mem_append.mp hMem).imp (hFirst.cards c) (hSecond.cards c))
  unused c hMem old hOld := by
    rcases List.mem_append.mp hMem with hNew | hMore
    · exact hFirst.unused c hNew old hOld
    · exact hSecond.unused c hMore old (List.mem_append_left _ hOld)
  controls r hMem := by
    rw [NewRows.append, List.map_append]
    exact List.mem_append.mpr ((List.mem_append.mp hMem).imp (hFirst.controls r) (hSecond.controls r))

end NewRows.Onboard

namespace Store

variable {s : Store} {company : Uuid}

/-! ## Controls of new cards -/

/-- A change to the controls of a card leaves those of other cards in front alone. -/
theorem ControlChange.behind {next : Store} {card : Uuid} {others own : List ControlRow}
    (hChange : s.ControlChange card next) (hSplit : s.controls = others ++ own)
    (hOthers : ∀ r ∈ others, r.cardId ≠ card) (hOwn : ∀ r ∈ own, r.cardId = card) :
    ∃ later, next.controls = others ++ later ∧ ∀ r ∈ later, r.cardId = card := by
  cases hChange with
  | changed change hKept hAlone hStore =>
      refine ⟨own.map change, ?_, fun later hLater => ?_⟩
      · have hFront : others.map change = others := by
          refine (List.map_congr_left fun r hMem => ?_).trans (List.map_id' others)
          exact hAlone r (hSplit ▸ List.mem_append_left own hMem) (hOthers r hMem)
        rw [hStore]
        dsimp only
        rw [hSplit, List.map_append, hFront]
      · obtain ⟨r, hMem, rfl⟩ := List.mem_map.mp hLater
        rw [(hKept r (hSplit ▸ List.mem_append_right others hMem)).2]
        exact hOwn r hMem
  | added row hCard hFound hNew hStore =>
      refine ⟨own ++ [row], ?_, List.forall_mem_append.mpr ⟨hOwn, by simpa using hCard⟩⟩
      rw [hStore]
      dsimp only
      rw [hSplit, List.append_assoc]

theorem putControls_behind {a : Ambient} {next : Store} {card : Uuid} {first : Nat}
    {controls : List ControlValue} {others own : List ControlRow} (hWell : s.WellFormed)
    (hSplit : s.controls = others ++ own) (hOthers : ∀ r ∈ others, r.cardId ≠ card)
    (hOwn : ∀ r ∈ own, r.cardId = card) (hPut : s.putControls a card first controls = .ok next) :
    ∃ later, next.controls = others ++ later ∧ ∀ r ∈ later, r.cardId = card := by
  induction controls generalizing s first own with
  | nil =>
      cases hPut
      exact ⟨own, hSplit, hOwn⟩
  | cons v rest ih =>
      obtain ⟨⟨row, put⟩, hFirst, hRest⟩ := bind_eq_ok_iff.mp hPut
      obtain ⟨later, hLater, hOf⟩ :=
        (hWell.controlChange_of_putControl hFirst).behind hSplit hOthers hOwn
      exact ih (hWell.putControl hFirst) hLater hOf hRest

/-- Issuing adds controls of the issued cards and touches no other. -/
theorem issueRows_controls {a : Ambient} {controls : List ControlValue} {expiry : Instant} {index : Nat}
    {rows : List QueueRow} {result : List Card × Store} (hWell : s.WellFormed)
    (hIssue : s.issueRows a controls expiry index rows = .ok result) :
    ∃ added, result.2.controls = s.controls ++ added ∧ ∀ r ∈ added, r.cardId ∈ result.1.map (·.id) := by
  induction rows generalizing s index result with
  | nil =>
      cases hIssue
      exact ⟨[], (List.append_nil _).symm, by simp⟩
  | cons r rest ih =>
      obtain ⟨draw, cvv, inserted, controlled, later, hInsert, hPut, hLater, rfl⟩ :=
        issueRows_cons_eq_ok hIssue
      have hInsertedWell := hWell.insertCard hInsert
      obtain ⟨hInserted, hNew⟩ := insertCard_eq_ok hInsert
      -- the card is new, so that no control can have referred to it
      have hOthers : ∀ old ∈ inserted.controls, old.cardId ≠ r.cardId := by
        rw [hInserted]
        exact hWell.cardId_ne_of_unused hNew
      obtain ⟨own, hControlled, hOwn⟩ := putControls_behind hInsertedWell (List.append_nil _).symm hOthers
        (by simp) hPut
      rw [hInserted] at hControlled
      obtain ⟨added, hAdded, hOf⟩ := ih (hInsertedWell.putControls hPut) hLater
      refine ⟨own ++ added, by rw [hAdded, hControlled, List.append_assoc], fun row hMem => ?_⟩
      rw [List.map_cons, List.mem_cons]
      rcases List.mem_append.mp hMem with hFirst | hRow
      · exact .inl (hOwn row hFirst)
      · exact .inr (hOf row hRow)

/-! ## The new company -/

/-- Marking the pending rows of a company leaves the rows of others in front alone. -/
theorem markGenerated_behind {now : Instant} {others own : List QueueRow} (hWell : s.WellFormed)
    (hSplit : s.queue = others ++ own) (hOthers : ∀ r ∈ others, r.companyId ≠ company) :
    (s.markGenerated now (s.pending company)).queue =
      others ++ own.map (QueueRow.marked now (s.pending company)) := by
  have hFront : ∀ r ∈ others, r.marked now (s.pending company) = r := by
    intro r hMem
    refine QueueRow.marked_of_not_mem fun row hPending hSame => ?_
    obtain ⟨hRow, hCompany, -⟩ := mem_pending.mp hPending
    have hQueued : r ∈ s.queue := by
      rw [hSplit]
      exact List.mem_append_left _ hMem
    -- the key tells that the row of this identifier is the pending one
    have hRows : row = r := List.inj_on_of_nodup_map hWell.queueKeyed hRow hQueued hSame
    exact hOthers r hMem (hRows ▸ hCompany)
  calc (s.markGenerated now (s.pending company)).queue
    _ = s.queue.map (QueueRow.marked now (s.pending company)) := rfl
    _ = others.map (QueueRow.marked now (s.pending company)) ++
          own.map (QueueRow.marked now (s.pending company)) := by rw [hSplit, List.map_append]
    _ = others ++ own.map (QueueRow.marked now (s.pending company)) := by
          rw [List.map_congr_left hFront, List.map_id']

/-- Issuing the cards of a company that is new to a store adds cards and controls to what was added. -/
theorem issue_withRows {a : Ambient} {settings : IssuanceSettings} {new : NewRows}
    {result : List Card × Store} (hReferenced : s.Referenced) (hWell : (s.withRows new).WellFormed)
    (hNew : company ∉ s.companies.map (·.id)) (hNoCards : new.cards = []) (hNoControls : new.controls = [])
    (hIssue : (s.withRows new).issue a settings company = .ok result) :
    ∃ queue controls, result.2 = s.withRows { new with queue, cards := result.1, controls } ∧
      queue.map (·.companyId) = new.queue.map (·.companyId) ∧
      (∀ c ∈ result.1, c.companyId = company) ∧ ∀ r ∈ controls, r.cardId ∈ result.1.map (·.id) := by
  obtain ⟨-, hStore, -, -, expiry, hCards⟩ := issue_eq_ok hWell.cardsKeyed hIssue
  obtain ⟨-, _, later, hRows, hResult⟩ := issue_issuesRows hIssue
  obtain ⟨controls, hControls, hOf⟩ := issueRows_controls hWell hRows
  have hOthers : ∀ r ∈ s.queue, r.companyId ≠ company := by
    intro r hMem hSame
    exact hNew (hSame ▸ hReferenced.companyOfQueueRow r hMem)
  have hSplit : (s.withRows new).queue = s.queue ++ new.queue := rfl
  have hResultControls : result.2.controls = s.controls ++ controls := by
    rw [hResult]
    refine hControls.trans ?_
    simp [withRows, hNoControls]
  refine ⟨new.queue.map (QueueRow.marked a.now ((s.withRows new).pending company)), controls, ?_, ?_,
    fun c hMem => ?_, ?_⟩
  · rw [hStore, markGenerated_behind hWell hSplit hOthers, hResultControls]
    simp [withRows, hNoCards]
  · rw [List.map_map]
    exact List.map_congr_left fun r _ => QueueRow.marked_companyId
  · obtain ⟨r, hPending, draw, cvv, rfl⟩ := hCards c hMem
    exact (mem_pending.mp hPending).2.1
  · rw [hResult]
    exact hOf

variable {a : Nat → Ambient} {settings : IssuanceSettings} {seed : CompanySeed}
  {registered : Company × Store} {queued : List QueueRow × Store} {outcome : Except Error Unit}

theorem onboard_of_registerCompany (hReferenced : s.Referenced)
    (hRegister : s.registerCompany (a 0) seed.newCompany = .ok registered) :
    registered.2.Referenced ∧ registered.2 = s.withRows { companies := [registered.1] } ∧
      NewRows.Onboard { companies := [registered.1] } s [seed] := by
  obtain ⟨hEmail, -, hNew, hStore⟩ := registerCompany_registers hRegister
  refine ⟨hReferenced.registerCompany hRegister, by rw [hStore]; simp [withRows], ?_⟩
  exact
    { seeded := fun c hMem => ⟨seed, List.mem_singleton_self _, by
        rw [List.mem_singleton.mp hMem, hEmail]
        rfl⟩
      unknown := fun c hMem => by
        rw [List.mem_singleton.mp hMem]
        exact hNew
      queue := by simp
      cards := by simp
      unused := by simp
      controls := by simp }

theorem onboard_of_enqueue (hReferenced : s.Referenced)
    (hRegister : s.registerCompany (a 0) seed.newCompany = .ok registered)
    (hEnqueue : registered.2.enqueue (a 1) registered.1.id seed.employees = .ok queued) :
    queued.2.Referenced ∧ queued.2 = s.withRows { companies := [registered.1], queue := queued.1 } ∧
      NewRows.Onboard { companies := [registered.1], queue := queued.1 } s [seed] := by
  obtain ⟨hRegistered, hStore, hNew⟩ := onboard_of_registerCompany hReferenced hRegister
  obtain ⟨-, hRows, hQueued⟩ := enqueue_eq_ok hEnqueue
  refine ⟨hRegistered.enqueue hEnqueue, by rw [hQueued, hStore]; simp [withRows], ?_⟩
  refine { hNew with queue := fun r hMem => ?_ }
  rw [hRows] at hMem
  obtain ⟨⟨employee, index⟩, -, rfl⟩ := List.mem_map.mp hMem
  exact List.mem_singleton_self _

/-- However an onboarding ends, it has added rows of a company that was not known before, or nothing. -/
theorem OnboardingEnd.withRows (hReferenced : s.Referenced)
    (hEnd : s.OnboardingEnd a settings seed outcome next) :
    next.Referenced ∧ ∃ new : NewRows, next = s.withRows new ∧ new.Onboard s [seed] := by
  cases hEnd with
  | known hKnown => exact ⟨hReferenced, {}, (s.withRows_nothing).symm, .nothing⟩
  | refused hUnknown hRefused => exact ⟨hReferenced, {}, (s.withRows_nothing).symm, .nothing⟩
  | registered hUnknown hRegister hNobody =>
      obtain ⟨hNext, hStore, hNew⟩ := onboard_of_registerCompany hReferenced hRegister
      exact ⟨hNext, _, hStore, hNew⟩
  | unqueued hUnknown hRegister hSomebody hUnqueued =>
      obtain ⟨hNext, hStore, hNew⟩ := onboard_of_registerCompany hReferenced hRegister
      exact ⟨hNext, _, hStore, hNew⟩
  | unissued hUnknown hRegister hSomebody hEnqueue hUnissued =>
      obtain ⟨hNext, hStore, hNew⟩ := onboard_of_enqueue hReferenced hRegister hEnqueue
      exact ⟨hNext, _, hStore, hNew⟩
  | @issued registered queued issued hUnknown hRegister hSomebody hEnqueue hIssue =>
      obtain ⟨hQueued, hStore, hNew⟩ := onboard_of_enqueue hReferenced hRegister hEnqueue
      have hNext := hQueued.issue hIssue
      have hUnknownId : registered.1.id ∉ s.companies.map (·.id) := by
        intro hMem
        obtain ⟨old, hOld, hSame⟩ := List.mem_map.mp hMem
        exact (hNew.unknown registered.1 (List.mem_singleton_self _) old hOld).1 hSame
      have hWell := hQueued.wellFormed
      rw [hStore] at hWell hIssue
      obtain ⟨queue, controls, hIssued, hQueue, hCards, hControls⟩ :=
        issue_withRows hReferenced hWell hUnknownId rfl rfl hIssue
      -- the cards are new because the key of the cards still holds
      have hKeyed := hNext.wellFormed.cardsKeyed
      rw [hIssued] at hKeyed
      have hUnused : ∀ c ∈ issued.1, ∀ old ∈ s.cards, old.id ≠ c.id := by
        intro c hMem old hOld hSame
        unfold CardsKeyed Store.withRows at hKeyed
        rw [List.map_append, List.nodup_append] at hKeyed
        exact hKeyed.2.2 _ (List.mem_map_of_mem hOld) _ (List.mem_map_of_mem hMem) hSame
      have hRows : ∀ r ∈ queue, r.companyId ∈ [registered.1].map (·.id) := by
        intro r hMem
        have hCompanies : r.companyId ∈ queued.1.map (·.companyId) := by
          rw [← hQueue]
          exact List.mem_map_of_mem hMem
        obtain ⟨old, hOld, hSame⟩ := List.mem_map.mp hCompanies
        rw [← hSame]
        exact hNew.queue old hOld
      have hOwned : ∀ c ∈ issued.1, c.companyId ∈ [registered.1].map (·.id) := by
        intro c hMem
        rw [hCards c hMem]
        exact List.mem_singleton_self _
      exact ⟨hNext, _, hIssued,
        { seeded := hNew.seeded
          unknown := hNew.unknown
          queue := hRows
          cards := hOwned
          unused := hUnused
          controls := hControls }⟩

/-- Onboarding companies one after the other adds rows of those that were not known before. -/
theorem onboardAll_withRows (hReferenced : s.Referenced) (a : Nat → Ambient) (settings : IssuanceSettings)
    (seeds : List CompanySeed) :
    (s.onboardAll a settings seeds).2.Referenced ∧
      ∃ new : NewRows, (s.onboardAll a settings seeds).2 = s.withRows new ∧ new.Onboard s seeds := by
  induction seeds generalizing s a with
  | nil => exact ⟨hReferenced, {}, (s.withRows_nothing).symm, .nothing⟩
  | cons seed rest ih =>
      obtain ⟨hFirst, new, hStore, hNew⟩ :=
        (s.onboard_end a settings seed).withRows hReferenced
      have hNewAll : new.Onboard s (seed :: rest) := hNew.mono (by simp)
      unfold onboardAll
      split
      · next hOnboard =>
          rw [hOnboard] at hFirst hStore
          exact ⟨hFirst, new, hStore, hNewAll⟩
      · next hOnboard =>
          rw [hOnboard] at hFirst hStore
          obtain ⟨hRest, more, hLater, hMore⟩ := ih hFirst (fun i => a (i + 3))
          dsimp only at hStore
          rw [hStore] at hMore hLater
          refine ⟨hRest, new.append more, ?_, hNewAll.append (hMore.mono (List.subset_cons_self seed rest))⟩
          rw [withRows_append, ← hLater, hStore]

end Store

end CardLedger
