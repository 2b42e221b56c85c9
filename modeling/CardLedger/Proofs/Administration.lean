import CardLedger.Issuance
import CardLedger.Proofs.Money
import CardLedger.Proofs.RowsKept

/-!
# Administration

What the operations that move no money leave behind. Companies, queue rows and controls are kept in
tables of their own. The settings of a card are revised in place, its owner and its balance being
kept; issued cards are appended, empty and under identifiers of their own.
-/

namespace CardLedger

/-- A change of a card that leaves its face and its balance alone, and sets no limit but a proper
one. -/
structure Card.Revision (change : Card → Card) : Prop where
  face : ∀ c, (change c).face = c.face
  balance : ∀ c, (change c).balance = c.balance
  limits : ∀ c, c.ProperLimits → (change c).ProperLimits

theorem Card.Revision.id {change : Card → Card} (hRevision : Card.Revision change) (c : Card) :
    (change c).id = c.id :=
  congrArg CardFace.id (hRevision.face c)

/-- The column of payloads gives that of a control back as it was written. -/
def Ambient.KeepsPayload (a : Ambient) (v : ControlValue) : Prop :=
  a.jsonColumn v.toPayload = some v.toPayload

namespace Store

variable {s s' : Store} {a : Ambient} {i : Interference} {company card id : Uuid}
  {change : Card → Card}

/-! ## Companies and the queue -/

theorem insertCompany_eq_ok {c : Company} (hInsert : s.insertCompany c = .ok s') :
    s' = { s with companies := s.companies ++ [c] } := by
  obtain ⟨-, hStore⟩ := unless_eq_ok_iff.mp hInsert
  exact (Except.ok.inj hStore).symm

theorem registerCompany_eq_ok {new : NewCompany} {result : Company × Store}
    (hRegister : s.registerCompany a new = .ok result) :
    result.2 = { s with companies := s.companies ++ [result.1] } := by
  obtain ⟨_, -, hRest⟩ := bind_eq_ok_iff.mp hRegister
  obtain ⟨-, hRest⟩ := unless_eq_ok_iff.mp hRest
  obtain ⟨after, hInsert, hResult⟩ := bind_eq_ok_iff.mp hRest
  cases hResult
  exact insertCompany_eq_ok hInsert

theorem getCompany_eq_ok_iff {c : Company} : s.getCompany company = .ok c ↔ s.company? company = some c := by
  unfold getCompany
  cases s.company? company with
  | none => simp
  | some found => simp

theorem setCompanyStatus_eq_ok {status : CompanyStatus} {result : Company × Store}
    (hSet : s.setCompanyStatus a company status = .ok result) :
    result.2 = { s with
      companies := s.companies.map fun c => if c.id == company then result.1 else c } := by
  obtain ⟨old, -, hResult⟩ := bind_eq_ok_iff.mp hSet
  cases hResult
  rfl

/-- The company whose status is set was found under its identifier, and keeps all else. -/
theorem setCompanyStatus_changes {status : CompanyStatus} {result : Company × Store}
    (hSet : s.setCompanyStatus a company status = .ok result) :
    ∃ old ∈ s.companies, old.id = company ∧ result.1 = { old with status, updatedAt := a.now } := by
  obtain ⟨old, hOld, hResult⟩ := bind_eq_ok_iff.mp hSet
  have hFound := getCompany_eq_ok_iff.mp hOld
  cases hResult
  exact ⟨old, List.mem_of_find?_eq_some hFound, by simpa using List.find?_some hFound, rfl⟩

theorem insertQueueRows_eq_ok {rows : List QueueRow} (hInsert : s.insertQueueRows rows = .ok s') :
    s' = { s with queue := s.queue ++ rows } := by
  induction rows generalizing s with
  | nil =>
      cases hInsert
      simp
  | cons r rest ih =>
      obtain ⟨next, hRow, hRest⟩ := bind_eq_ok_iff.mp hInsert
      obtain ⟨-, hRow⟩ := unless_eq_ok_iff.mp hRow
      obtain ⟨-, hRow⟩ := unless_eq_ok_iff.mp hRow
      cases hRow
      simpa using ih hRest

theorem mem_pending {r : QueueRow} :
    r ∈ s.pending company ↔ r ∈ s.queue ∧ r.companyId = company ∧ r.status = .pending := by
  unfold pending oldestFirst
  simp

/-- A company that is there and active. -/
def IsActive (s : Store) (company : Uuid) : Prop :=
  ∃ c, s.company? company = some c ∧ c.status = .active

theorem checkActive_eq_ok_iff {u : Unit} : s.checkActive company = .ok u ↔ s.IsActive company := by
  unfold checkActive getCompany IsActive
  cases s.company? company with
  | none => simp
  | some c =>
      by_cases hActive : c.status = .active
      · simp [hActive]
      · simp [hActive]

/-- Queueing employees of an active company inserts one pending row for each of them. -/
theorem enqueue_inserts {employees : List EmployeeRecord} {result : List QueueRow × Store}
    (hEnqueue : s.enqueue a company employees = .ok result) :
    s.IsActive company ∧
      result.1 = employees.zipIdx.map (fun (e, i) =>
        e.queueRow company (a.freshId (2 * i)) (a.freshId (2 * i + 1)) a.now) ∧
      s.insertQueueRows result.1 = .ok result.2 := by
  obtain ⟨-, hRest⟩ := unless_eq_ok_iff.mp hEnqueue
  cases hBlank : firstBlankEmail? employees with
  | some position =>
      rw [hBlank] at hRest
      cases hRest
  | none =>
      rw [hBlank] at hRest
      obtain ⟨_, -, hRest⟩ := bind_eq_ok_iff.mp hRest
      obtain ⟨_, hActive, hRest⟩ := bind_eq_ok_iff.mp hRest
      obtain ⟨after, hInsert, hResult⟩ := bind_eq_ok_iff.mp hRest
      cases hResult
      exact ⟨checkActive_eq_ok_iff.mp hActive, rfl, hInsert⟩

theorem enqueue_eq_ok {employees : List EmployeeRecord} {result : List QueueRow × Store}
    (hEnqueue : s.enqueue a company employees = .ok result) :
    s.IsActive company ∧
      result.1 = employees.zipIdx.map (fun (e, i) =>
        e.queueRow company (a.freshId (2 * i)) (a.freshId (2 * i + 1)) a.now) ∧
      result.2 = { s with queue := s.queue ++ result.1 } := by
  obtain ⟨hActive, hRows, hInsert⟩ := enqueue_inserts hEnqueue
  exact ⟨hActive, hRows, insertQueueRows_eq_ok hInsert⟩

/-! ## Controls -/

theorem mem_of_activeControl? {kind : ControlType} {old : ControlRow}
    (hActive : s.activeControl? card kind = some old) :
    old ∈ s.controls ∧ old.isActiveOf card kind = true :=
  ⟨List.mem_of_find?_eq_some hActive,
    List.find?_some (p := fun r : ControlRow => r.isActiveOf card kind) hActive⟩

theorem writtenPayload_eq_ok_iff {v : ControlValue} {payload : Value} :
    a.writtenPayload v = .ok payload ↔ a.jsonColumn v.toPayload = some payload := by
  unfold Ambient.writtenPayload
  cases a.jsonColumn v.toPayload with
  | none => simp
  | some kept => simp

/-- A control is set in the active row of its type, or in a new row if there is none. The row holds what
its column gives back. -/
theorem putControl_cases {v : ControlValue} {row : ControlRow}
    (hPut : s.putControl a id card v = .ok (row, s')) :
    ∃ payload, a.jsonColumn v.toPayload = some payload ∧
      ((∃ old, s.activeControl? card v.type = some old ∧
        row = { old with payload, updatedAt := a.now } ∧
        s' = { s with controls := s.controls.map fun r => if r.id == old.id then row else r }) ∨
      (s.activeControl? card v.type = none ∧
        row = { id, cardId := card, type := v.type.name, payload
                isActive := true, createdAt := a.now, updatedAt := a.now } ∧
        (∀ old ∈ s.controls, old.id ≠ id) ∧ (∃ c, s.card? card = some c) ∧
        s' = { s with controls := s.controls ++ [row] })) := by
  obtain ⟨_, -, hRest⟩ := bind_eq_ok_iff.mp hPut
  obtain ⟨payload, hPayload, hRest⟩ := bind_eq_ok_iff.mp hRest
  have hColumn := writtenPayload_eq_ok_iff.mp hPayload
  cases hActive : s.activeControl? card v.type with
  | some old =>
      rw [hActive] at hRest
      cases hRest
      exact ⟨payload, hColumn, .inl ⟨old, rfl, rfl, rfl⟩⟩
  | none =>
      rw [hActive] at hRest
      obtain ⟨after, hInsert, hResult⟩ := bind_eq_ok_iff.mp hRest
      obtain ⟨hNew, hRow⟩ := unless_eq_ok_iff.mp hInsert
      obtain ⟨hCard, hStore⟩ := unless_eq_ok_iff.mp hRow
      cases hStore
      cases hResult
      exact ⟨payload, hColumn, .inr
        ⟨rfl, rfl, by simpa using hNew, by simpa [Option.ne_none_iff_exists'] using hCard, rfl⟩⟩

theorem putControl_eq_ok {v : ControlValue} {result : ControlRow × Store}
    (hPut : s.putControl a id card v = .ok result) :
    result.2 = { s with controls := result.2.controls } := by
  obtain ⟨payload, -, ⟨_, -, -, hStore⟩ | ⟨-, -, -, -, hStore⟩⟩ := putControl_cases hPut
  · rw [hStore]
  · rw [hStore]

theorem upsertControl_eq_ok {v : ControlValue} {result : ControlRow × Store}
    (hUpsert : s.upsertControl a company card v = .ok result) :
    result.2 = { s with controls := result.2.controls } := by
  obtain ⟨_, -, hRest⟩ := bind_eq_ok_iff.mp hUpsert
  obtain ⟨_, -, hPut⟩ := bind_eq_ok_iff.mp hRest
  exact putControl_eq_ok hPut

theorem deactivateControl_eq_ok {kind : ControlType} {result : Bool × Store}
    (hDeactivate : s.deactivateControl a company card kind = .ok result) :
    result.2 = { s with controls := result.2.controls } := by
  obtain ⟨_, -, hResult⟩ := bind_eq_ok_iff.mp hDeactivate
  cases hResult
  rfl

theorem putControls_eq_ok {next : Nat} {controls : List ControlValue}
    (hPut : s.putControls a card next controls = .ok s') :
    s' = { s with controls := s'.controls } := by
  induction controls generalizing s next with
  | nil =>
      cases hPut
      rfl
  | cons control rest ih =>
      obtain ⟨put, hFirst, hRest⟩ := bind_eq_ok_iff.mp hPut
      rw [ih hRest, putControl_eq_ok hFirst]

/-! ## Settings of a card -/

theorem changeCard_eq_ok {result : Card × Store} (hChange : s.changeCard i id change = .ok result) :
    result.2 = s.modifyCard id change := by
  unfold changeCard changeCards modifyCard at *
  cases hLost : i.cardUpdatesLost with
  | true =>
      rw [if_pos hLost] at hChange
      dsimp only at hChange
      split at hChange
      · cases hChange
      · cases hChange
  | false =>
      rw [if_neg (by simp [hLost])] at hChange
      dsimp only at hChange
      split at hChange
      · obtain ⟨-, hResult⟩ := unless_eq_ok_iff.mp hChange
        cases hResult
        simp
      · cases hChange

/-- Setting a limit revises one card. -/
theorem setSpendingLimit_eq_ok {limit : Float} {result : Card × Store}
    (hSet : s.setSpendingLimit a company card limit = .ok result) :
    ∃ change, Card.Revision change ∧ result.2 = s.modifyCard card change := by
  obtain ⟨_, hCheck, hRest⟩ := bind_eq_ok_iff.mp hSet
  obtain ⟨_, -, hChange⟩ := bind_eq_ok_iff.mp hRest
  have hLimit := isAmount_of_checkAmount hCheck
  refine ⟨_, ?_, changeCard_eq_ok hChange⟩
  exact
    { face := fun _ => rfl
      balance := fun _ => rfl
      limits := fun c hLimits => ⟨fun x hx => Option.some.inj hx ▸ hLimit, hLimits.daily,
        hLimits.monthly⟩ }

theorem setPeriodLimits_eq_ok {daily monthly : Option Float} {result : Card × Store}
    (hSet : s.setPeriodLimits a company card daily monthly = .ok result) :
    ∃ change, Card.Revision change ∧ result.2 = s.modifyCard card change := by
  obtain ⟨_, hDaily, hRest⟩ := bind_eq_ok_iff.mp hSet
  obtain ⟨_, hMonthly, hRest⟩ := bind_eq_ok_iff.mp hRest
  obtain ⟨_, -, hChange⟩ := bind_eq_ok_iff.mp hRest
  refine ⟨_, ?_, changeCard_eq_ok hChange⟩
  exact
    { face := fun _ => rfl
      balance := fun _ => rfl
      limits := fun c hLimits => ⟨hLimits.spending, isAmount_of_checkLimit hDaily,
        isAmount_of_checkLimit hMonthly⟩ }

theorem blockCard_eq_ok {reason : Option String} {result : Card × Store}
    (hBlock : s.blockCard a company card reason = .ok result) :
    ∃ change, Card.Revision change ∧ result.2 = s.modifyCard card change := by
  obtain ⟨_, -, hChange⟩ := bind_eq_ok_iff.mp hBlock
  refine ⟨_, ?_, changeCard_eq_ok hChange⟩
  exact
    { face := fun _ => rfl
      balance := fun _ => rfl
      limits := fun c hLimits => ⟨hLimits.spending, hLimits.daily, hLimits.monthly⟩ }

/-! ## Issued cards -/

theorem insertCard_eq_ok {c : Card} (hInsert : s.insertCard c = .ok s') :
    s' = { s with cards := s.cards ++ [c] } ∧ ∀ d ∈ s.cards, d.id ≠ c.id := by
  obtain ⟨hNew, hRest⟩ := unless_eq_ok_iff.mp hInsert
  obtain ⟨-, hRest⟩ := unless_eq_ok_iff.mp hRest
  obtain ⟨-, hStore⟩ := unless_eq_ok_iff.mp hRest
  exact ⟨(Except.ok.inj hStore).symm, by simpa using hNew⟩

theorem cardsKeyed_insertCard {c : Card} (hKeyed : s.CardsKeyed)
    (hInsert : s.insertCard c = .ok s') : s'.CardsKeyed := by
  obtain ⟨rfl, hNew⟩ := insertCard_eq_ok hInsert
  exact nodup_map_concat hKeyed hNew

/-- The card of the first queue row is inserted and gets its controls before the rest is issued. -/
theorem issueRows_cons_eq_ok {controls : List ControlValue} {expiry : Instant} {index : Nat}
    {r : QueueRow} {rest : List QueueRow} {result : List Card × Store}
    (hIssue : s.issueRows a controls expiry index (r :: rest) = .ok result) :
    ∃ draw cvv inserted controlled later,
      s.insertCard (r.card (Luhn.cardNumber draw) cvv a.now expiry) = .ok inserted ∧
      inserted.putControls a r.cardId (controls.length * index) controls = .ok controlled ∧
      controlled.issueRows a controls expiry (index + 1) rest = .ok later ∧
      result = (r.card (Luhn.cardNumber draw) cvv a.now expiry :: later.1, later.2) := by
  obtain ⟨inserted, hInsert, hRest⟩ := bind_eq_ok_iff.mp hIssue
  obtain ⟨controlled, hPut, hRest⟩ := bind_eq_ok_iff.mp hRest
  obtain ⟨later, hLater, hResult⟩ := bind_eq_ok_iff.mp hRest
  exact ⟨_, _, inserted, controlled, later, hInsert, hPut, hLater, (Except.ok.inj hResult).symm⟩

/-- Issuing appends one empty card for each queue row and touches the controls besides. -/
theorem issueRows_eq_ok {controls : List ControlValue} {expiry : Instant} {index : Nat}
    {rows : List QueueRow} {result : List Card × Store} (hKeyed : s.CardsKeyed)
    (hIssue : s.issueRows a controls expiry index rows = .ok result) :
    result.2 = { s with cards := s.cards ++ result.1, controls := result.2.controls } ∧
      result.2.CardsKeyed ∧ result.1.map (·.id) = rows.map (·.cardId) ∧
      ∀ c ∈ result.1, ∃ r ∈ rows, ∃ draw cvv,
        c = r.card (Luhn.cardNumber draw) cvv a.now expiry := by
  induction rows generalizing s index result with
  | nil =>
      cases hIssue
      simpa using hKeyed
  | cons r rest ih =>
      obtain ⟨draw, cvv, inserted, controlled, later, hInsert, hPut, hLater, rfl⟩ :=
        issueRows_cons_eq_ok hIssue
      -- the controls of a card are written before the next card, but to another table
      have hControlled := putControls_eq_ok hPut
      have hInsertedKeyed := cardsKeyed_insertCard hKeyed hInsert
      have hControlledKeyed : controlled.CardsKeyed := by
        rw [hControlled]
        exact hInsertedKeyed
      obtain ⟨hStore, hLaterKeyed, hIds, hRows⟩ := ih hControlledKeyed hLater
      obtain ⟨rfl, -⟩ := insertCard_eq_ok hInsert
      refine ⟨?_, hLaterKeyed, by simp [hIds, QueueRow.card], ?_⟩
      · rw [hStore, hControlled]
        simp
      · intro c hc
        cases List.mem_cons.mp hc with
        | inl hFirst => exact ⟨r, List.mem_cons_self, _, _, hFirst⟩
        | inr hMem =>
            obtain ⟨row, hRow, hCard⟩ := hRows c hMem
            exact ⟨row, List.mem_cons_of_mem r hRow, hCard⟩

/-- Issuing reaches the cards and the controls, whether or not the cards are keyed. -/
theorem issueRows_frame {controls : List ControlValue} {expiry : Instant} {index : Nat}
    {rows : List QueueRow} {result : List Card × Store}
    (hIssue : s.issueRows a controls expiry index rows = .ok result) :
    result.2 = { s with cards := result.2.cards, controls := result.2.controls } := by
  induction rows generalizing s index result with
  | nil =>
      cases hIssue
      rfl
  | cons r rest ih =>
      obtain ⟨draw, cvv, inserted, controlled, later, hInsert, hPut, hLater, rfl⟩ :=
        issueRows_cons_eq_ok hIssue
      have hFrame := ih hLater
      rw [putControls_eq_ok hPut, (insertCard_eq_ok hInsert).1] at hFrame
      exact hFrame

/-- Issuing goes through the pending rows of an active company, and marks them. -/
theorem issue_issuesRows {settings : IssuanceSettings} {result : List Card × Store}
    (hIssue : s.issue a settings company = .ok result) :
    s.IsActive company ∧ ∃ expiry later,
      s.issueRows a settings.defaultControls expiry 0 (s.pending company) = .ok later ∧
      result = (later.1, later.2.markGenerated a.now (s.pending company)) := by
  obtain ⟨_, hActive, hRest⟩ := bind_eq_ok_iff.mp hIssue
  obtain ⟨_, -, hRest⟩ := bind_eq_ok_iff.mp hRest
  obtain ⟨-, hRest⟩ := unless_eq_ok_iff.mp hRest
  obtain ⟨expiry, -, hRest⟩ := bind_eq_ok_iff.mp hRest
  obtain ⟨later, hRows, hResult⟩ := bind_eq_ok_iff.mp hRest
  exact ⟨checkActive_eq_ok_iff.mp hActive, expiry, later, hRows, (Except.ok.inj hResult).symm⟩

theorem issue_frame {settings : IssuanceSettings} {result : List Card × Store}
    (hIssue : s.issue a settings company = .ok result) :
    result.2 = { s with
      cards := result.2.cards, queue := result.2.queue, controls := result.2.controls } := by
  obtain ⟨-, expiry, later, hRows, rfl⟩ := issue_issuesRows hIssue
  have hFrame := issueRows_frame hRows
  unfold markGenerated
  dsimp only
  rw [hFrame]

/-- Issuing appends the cards of all pending rows of an active company, and marks these rows. -/
theorem issue_eq_ok {settings : IssuanceSettings} {result : List Card × Store}
    (hKeyed : s.CardsKeyed) (hIssue : s.issue a settings company = .ok result) :
    s.IsActive company ∧
      result.2 = { s with
        cards := s.cards ++ result.1, controls := result.2.controls
        queue := (s.markGenerated a.now (s.pending company)).queue } ∧
      result.2.CardsKeyed ∧ result.1.map (·.id) = (s.pending company).map (·.cardId) ∧
      ∃ expiry, ∀ c ∈ result.1, ∃ r ∈ s.pending company, ∃ draw cvv,
        c = r.card (Luhn.cardNumber draw) cvv a.now expiry := by
  obtain ⟨hActive, expiry, later, hRows, rfl⟩ := issue_issuesRows hIssue
  obtain ⟨hStore, hLaterKeyed, hIds, hIssued⟩ := issueRows_eq_ok hKeyed hRows
  refine ⟨hActive, ?_, hLaterKeyed, hIds, expiry, hIssued⟩
  unfold markGenerated
  rw [hStore]

/-- Issued cards are empty and have no limits. -/
theorem issue_empty {settings : IssuanceSettings} {result : List Card × Store} (hKeyed : s.CardsKeyed)
    (hIssue : s.issue a settings company = .ok result) :
    ∀ c ∈ result.1, c.balance = 0 ∧ c.ProperLimits := by
  obtain ⟨-, -, -, -, expiry, hCards⟩ := issue_eq_ok hKeyed hIssue
  intro c hc
  obtain ⟨r, -, draw, cvv, rfl⟩ := hCards c hc
  exact ⟨rfl, Card.properLimits_of_unset rfl rfl rfl⟩

end Store

end CardLedger
