import CardLedger.Proofs.Freshness
import CardLedger.Proofs.IssuanceFailures
import CardLedger.Proofs.StageChecks

/-!
# When issuing goes through

Everything that an issue call asks about its company, its settings, the queue and the calendar comes
before the first row is written, in a fixed order. Once all of it is answered the rows are written, which
goes through if the identifiers are new: those that the queue holds ready for cards, and those that are
drawn for controls, and if the column of payloads can give back what is written to it.
-/

namespace CardLedger

/-- The check of a control before it is stored. -/
def ControlValue.storingCheck (v : ControlValue) : Option Error :=
  (failure? v.validate).map .controlConfig

/-- From a number on the identifiers drawn are distinct, and no control has one of them. -/
structure Ambient.UnusedFrom (a : Ambient) (s : Store) (first count : Nat) : Prop where
  distinct : ∀ i < count, ∀ j < count, a.freshId i = a.freshId j → i = j
  unused : ∀ i < count, first ≤ i → ∀ r ∈ s.controls, r.id ≠ a.freshId i

namespace Store

instance (s : Store) (company : Uuid) : Decidable (s.IsActive company) :=
  inferInstanceAs (Decidable (∃ c ∈ s.company? company, c.status = .active))

/-- The checks of a company that is to get cards. -/
def companyChecks (s : Store) (company : Uuid) : List (Option Error) :=
  [demand (∃ c ∈ s.companies, c.id = company) (.companyNotFound company),
    demand (s.IsActive company) (.companyInactive company)]

/-- The checks of the queue and the calendar. -/
def pendingChecks (s : Store) (now : Instant) (years : Nat) (company : Uuid) : List (Option Error) :=
  [demand (∃ r ∈ s.queue, r.companyId = company ∧ r.status = .pending) (.nothingToIssue company),
    demand (now.addMonths? (validityMonths years)).isSome (.config (.validityOverflow years))]

/-- The checks of an issue call, in the order in which they are made. -/
def issueChecks (s : Store) (now : Instant) (settings : IssuanceSettings) (company : Uuid) :
    List (Option Error) :=
  s.companyChecks company ++ settings.defaultControls.map (·.storingCheck) ++
    s.pendingChecks now settings.validityYears company

variable {s next : Store} {a : Ambient} {now : Instant} {company card fresh : Uuid} {v : ControlValue}
  {controls : List ControlValue} {settings : IssuanceSettings} {row : ControlRow} {e : Error}
  {first count : Nat}

/-! ## The checks -/

theorem checkActive_eq_settle : s.checkActive company = settle (s.companyChecks company) := by
  have hKnown : (∃ c ∈ s.companies, c.id = company) ↔ (s.company? company).isSome := by
    simp [company?]
  unfold checkActive getCompany companyChecks
  rw [settle_demand, settle_demand, settle_nil]
  cases hCompany : s.company? company with
  | none =>
      rw [if_neg (by rw [hKnown, hCompany]; exact Bool.false_ne_true)]
      rfl
  | some c =>
      rw [if_pos (by rw [hKnown, hCompany]; rfl), ok_bind]
      have hActive : s.IsActive company ↔ c.status = .active := by
        simp [IsActive, hCompany]
      simp only [hActive]

theorem checkControls_eq_settle :
    checkControls controls = settle (controls.map (·.storingCheck)) := by
  induction controls with
  | nil => rfl
  | cons v rest ih =>
      unfold checkControls
      rw [ih, List.map_cons, ControlValue.storingCheck]
      cases v.validate with
      | error fault => rfl
      | ok u => rfl

theorem pending_ne_nil_iff :
    s.pending company ≠ [] ↔ ∃ r ∈ s.queue, r.companyId = company ∧ r.status = .pending := by
  rw [← not_iff_not, not_not, List.eq_nil_iff_forall_not_mem]
  simp [mem_pending]

/-- An issue call makes its checks and then writes the rows. -/
theorem issue_eq_settle : s.issue a settings company =
    settle (s.issueChecks a.now settings company) >>= fun _ => do
      let expiry ← expiryAfter a.now settings.validityYears
      let (cards, written) ← s.issueRows a settings.defaultControls expiry 0 (s.pending company)
      return (cards, written.markGenerated a.now (s.pending company)) := by
  unfold issue issueChecks
  rw [checkActive_eq_settle, checkControls_eq_settle, settle_append, settle_append]
  cases settle (s.companyChecks company) with
  | error e => rfl
  | ok u =>
      cases settle (settings.defaultControls.map (·.storingCheck)) with
      | error e => rfl
      | ok u =>
          unfold pendingChecks
          rw [ok_bind, ok_bind, settle_demand, settle_demand, settle_nil, ok_bind]
          dsimp only
          by_cases hPending : s.pending company = []
          · rw [if_pos (by simpa using hPending), if_neg (pending_ne_nil_iff.not.mp (not_not.mpr hPending))]
            rfl
          · rw [if_neg (by simpa using hPending), if_pos (pending_ne_nil_iff.mp hPending)]
            unfold expiryAfter
            cases a.now.addMonths? (validityMonths settings.validityYears) with
            | none => rfl
            | some expiry => rfl

theorem issue_of_check (hFirst : firstFailure (s.issueChecks a.now settings company) = some e) :
    s.issue a settings company = .error e := by
  rw [issue_eq_settle, settle_of_some hFirst, error_bind]

/-- What is left to do once all checks hold. -/
theorem issue_of_checks (hNone : firstFailure (s.issueChecks a.now settings company) = none) :
    ∃ expiry, a.now.addMonths? (validityMonths settings.validityYears) = some expiry ∧
      s.issue a settings company =
        (s.issueRows a settings.defaultControls expiry 0 (s.pending company)).map fun written =>
          (written.1, written.2.markGenerated a.now (s.pending company)) := by
  obtain ⟨-, hQueue⟩ := firstFailure_append_eq_none.mp hNone
  have hFits := holds_of_firstFailure (firstFailure_cons_eq_none.mp hQueue).2
  obtain ⟨expiry, hExpiry⟩ := Option.isSome_iff_exists.mp hFits
  refine ⟨expiry, hExpiry, ?_⟩
  rw [issue_eq_settle, settle_of_none hNone, ok_bind]
  unfold expiryAfter
  rw [hExpiry]
  rfl

theorem validate_of_checks (hNone : firstFailure (s.issueChecks a.now settings company) = none) :
    ∀ v ∈ settings.defaultControls, v.validate = .ok () := by
  obtain ⟨hFirst, -⟩ := firstFailure_append_eq_none.mp hNone
  obtain ⟨-, hControls⟩ := firstFailure_append_eq_none.mp hFirst
  refine validate_of_checkControls (u := ()) ?_
  rw [checkControls_eq_settle, settle_of_none hControls]

/-- An issue call fails over the first of its checks that does not hold, or over the tables. -/
theorem issue_eq_error_cases (hFails : s.issue a settings company = .error e) :
    firstFailure (s.issueChecks a.now settings company) = some e ∨
      firstFailure (s.issueChecks a.now settings company) = none ∧ e.IsOfTables := by
  cases hChecks : firstFailure (s.issueChecks a.now settings company) with
  | some first =>
      rw [issue_of_check hChecks] at hFails
      exact .inl (congrArg some (Except.error.inj hFails))
  | none =>
      obtain ⟨expiry, -, hIssue⟩ := issue_of_checks hChecks
      rw [hIssue] at hFails
      cases hRows : s.issueRows a settings.defaultControls expiry 0 (s.pending company) with
      | error fault =>
          rw [hRows] at hFails
          cases hFails
          exact .inr ⟨rfl, issueRows_eq_error (validate_of_checks hChecks) hRows⟩
      | ok written =>
          rw [hRows] at hFails
          cases hFails

/-! ## Writing the rows -/

theorem insertCard_succeeds {c : Card} (hNew : ∀ d ∈ s.cards, d.id ≠ c.id)
    (hCompany : s.company? c.companyId ≠ none) (hBalance : c.balance.isNaN = false) :
    s.insertCard c = .ok { s with cards := s.cards ++ [c] } := by
  unfold insertCard
  rw [if_neg (by simpa using hNew), if_neg (by simpa using hCompany), hBalance,
    if_neg Bool.false_ne_true]

theorem insertControl_succeeds (hNew : ∀ old ∈ s.controls, old.id ≠ row.id)
    (hCard : s.card? row.cardId ≠ none) :
    s.insertControl row = .ok { s with controls := s.controls ++ [row] } := by
  unfold insertControl
  rw [if_neg (by simpa using hNew), if_neg (by simpa using hCard)]

theorem putControl_succeeds (hValid : v.validate = .ok ()) (hReadable : (a.jsonColumn v.toPayload).isSome)
    (hCard : s.card? card ≠ none) (hFresh : ∀ r ∈ s.controls, r.id ≠ fresh) :
    ∃ result, s.putControl a fresh card v = .ok result := by
  obtain ⟨payload, hColumn⟩ := Option.isSome_iff_exists.mp hReadable
  unfold putControl
  rw [hValid, liftFault_ok, ok_bind, writtenPayload_eq_ok_iff.mpr hColumn, ok_bind]
  split
  · exact ⟨_, rfl⟩
  · exact ⟨_, bind_eq_ok_iff.mpr ⟨_, insertControl_succeeds hFresh hCard, rfl⟩⟩

theorem unusedFrom_putControl (hUnused : a.UnusedFrom s first count) (hFirst : first < count)
    (hPut : s.putControl a (a.freshId first) card v = .ok (row, next)) :
    a.UnusedFrom next (first + 1) count where
  distinct := hUnused.distinct
  unused := by
    intro i hi hLater r hMem
    obtain ⟨payload, -, ⟨old, hActive, rfl, rfl⟩ | ⟨-, rfl, -, -, rfl⟩⟩ := putControl_cases hPut
    · obtain ⟨other, hOther, rfl⟩ := List.mem_map.mp hMem
      split
      · exact hUnused.unused i hi (by omega) old (mem_of_activeControl? hActive).1
      · exact hUnused.unused i hi (by omega) other hOther
    · rcases List.mem_append.mp hMem with hOld | hNew
      · exact hUnused.unused i hi (by omega) r hOld
      · intro hSame
        rw [List.mem_singleton.mp hNew] at hSame
        have hIndex := hUnused.distinct first hFirst i hi hSame
        omega

theorem putControls_succeed (hValid : ∀ v ∈ controls, v.validate = .ok ())
    (hReadable : ∀ v ∈ controls, (a.jsonColumn v.toPayload).isSome) (hCard : s.card? card ≠ none)
    (hUnused : a.UnusedFrom s first count) (hCount : first + controls.length ≤ count) :
    ∃ next, s.putControls a card first controls = .ok next ∧
      a.UnusedFrom next (first + controls.length) count := by
  induction controls generalizing s first with
  | nil => exact ⟨s, rfl, hUnused⟩
  | cons v rest ih =>
      rw [List.length_cons] at hCount
      have hFresh := hUnused.unused first (by omega) (Nat.le_refl first)
      obtain ⟨hControl, hRestValid⟩ := List.forall_mem_cons.mp hValid
      obtain ⟨hColumn, hRestReadable⟩ := List.forall_mem_cons.mp hReadable
      obtain ⟨⟨row, put⟩, hPut⟩ : ∃ result, s.putControl a (a.freshId first) card v = .ok result :=
        putControl_succeeds hControl hColumn hCard hFresh
      have hPutCard : put.card? card ≠ none := by
        have hFrame := putControl_eq_ok hPut
        dsimp only at hFrame
        rw [hFrame]
        exact hCard
      obtain ⟨next, hRest, hLater⟩ := ih hRestValid hRestReadable hPutCard
        (unusedFrom_putControl hUnused (by omega) hPut) (by omega)
      refine ⟨next, bind_eq_ok_iff.mpr ⟨_, hPut, hRest⟩, ?_⟩
      rwa [List.length_cons, Nat.add_comm rest.length 1, ← Nat.add_assoc]

/-- Cards are issued for rows that hold identifiers of cards which are not there yet. -/
theorem issueRows_succeed {expiry : Instant} {index : Nat} {rows : List QueueRow}
    (hValid : ∀ v ∈ controls, v.validate = .ok ())
    (hReadable : ∀ v ∈ controls, (a.jsonColumn v.toPayload).isSome)
    (hCompany : ∀ r ∈ rows, s.company? r.companyId ≠ none)
    (hDistinct : (rows.map (·.cardId)).Nodup) (hNew : ∀ r ∈ rows, ∀ c ∈ s.cards, c.id ≠ r.cardId)
    (hUnused : a.UnusedFrom s (controls.length * index) count)
    (hCount : controls.length * (index + rows.length) ≤ count) :
    ∃ result, s.issueRows a controls expiry index rows = .ok result := by
  induction rows generalizing s index with
  | nil => exact ⟨_, rfl⟩
  | cons r rest ih =>
      obtain ⟨hRow, hRest⟩ := List.forall_mem_cons.mp hNew
      obtain ⟨hRowCompany, hRestCompany⟩ := List.forall_mem_cons.mp hCompany
      rw [List.map_cons, List.nodup_cons] at hDistinct
      obtain ⟨hOther, hRestDistinct⟩ := hDistinct
      -- the card of the row and its controls
      let draw := fun i => a.draw (15 * index + i)
      let c := r.card (Luhn.cardNumber draw) (cvvHash (draw 14)) a.now expiry
      have hInsert : s.insertCard c = .ok { s with cards := s.cards ++ [c] } :=
        insertCard_succeeds hRow hRowCompany (show (0 : Float).isNaN = false by decide)
      have hFound : Store.card? { s with cards := s.cards ++ [c] } c.id ≠ none := by
        intro hNone
        exact card?_eq_none_iff.mp hNone c (List.mem_append_right _ (List.mem_singleton_self c)) rfl
      have hTurn : controls.length * index + controls.length = controls.length * (index + 1) := by
        rw [Nat.mul_succ]
      have hUsed : controls.length * (index + 1) ≤ controls.length * (index + (r :: rest).length) :=
        Nat.mul_le_mul_left _ (by rw [List.length_cons]; omega)
      obtain ⟨controlled, hPut, hLater⟩ := putControls_succeed (s := { s with cards := s.cards ++ [c] })
        hValid hReadable hFound ⟨hUnused.distinct, hUnused.unused⟩ (by omega)
      have hFrame := putControls_eq_ok hPut
      -- the cards of the rest are still not there
      have hRestNew : ∀ row ∈ rest, ∀ d ∈ controlled.cards, d.id ≠ row.cardId := by
        intro row hMem d hCard hSame
        rw [hFrame] at hCard
        rcases List.mem_append.mp hCard with hOld | hOwn
        · exact hRest row hMem d hOld hSame
        · rw [List.mem_singleton.mp hOwn] at hSame
          exact hOther (List.mem_map.mpr ⟨row, hMem, hSame.symm⟩)
      have hRestCompanies : ∀ row ∈ rest, controlled.company? row.companyId ≠ none := by
        rw [hFrame]
        exact hRestCompany
      rw [hTurn] at hLater
      obtain ⟨⟨issued, last⟩, hIssue⟩ := ih hRestCompanies hRestDistinct hRestNew hLater
        (by rw [List.length_cons, Nat.add_comm rest.length 1, ← Nat.add_assoc] at hCount; exact hCount)
      exact ⟨(c :: issued, last), bind_eq_ok_iff.mpr ⟨_, hInsert, bind_eq_ok_iff.mpr
        ⟨_, hPut, bind_eq_ok_iff.mpr ⟨_, hIssue, rfl⟩⟩⟩⟩

theorem company?_ne_none_of_isActive (hActive : s.IsActive company) : s.company? company ≠ none := by
  obtain ⟨c, hCompany, -⟩ := hActive
  rw [hCompany]
  exact Option.some_ne_none c

/-- An issue call goes through if its checks hold, the identifiers that the queue holds ready are those of
different cards that are not there yet, what is drawn is not in use, and the payloads of the default
controls can be read back. -/
theorem issue_succeeds (hDistinct : ((s.pending company).map (·.cardId)).Nodup)
    (hNew : ∀ r ∈ s.pending company, ∀ c ∈ s.cards, c.id ≠ r.cardId)
    (hFresh : a.FreshFor s ((Operation.issue settings company).draws s))
    (hReadable : ∀ v ∈ settings.defaultControls, (a.jsonColumn v.toPayload).isSome)
    (hNone : firstFailure (s.issueChecks a.now settings company) = none) :
    ∃ result, s.issue a settings company = .ok result := by
  obtain ⟨expiry, -, hIssue⟩ := issue_of_checks hNone
  have hActive : s.IsActive company := by
    obtain ⟨hFirst, -⟩ := firstFailure_append_eq_none.mp hNone
    obtain ⟨hCompany, -⟩ := firstFailure_append_eq_none.mp hFirst
    exact holds_of_firstFailure (firstFailure_cons_eq_none.mp hCompany).2
  have hUnused : a.UnusedFrom s (settings.defaultControls.length * 0)
      ((Operation.issue settings company).draws s) :=
    ⟨hFresh.distinct, fun i hi _ => hFresh.control hi⟩
  have hCompanies : ∀ r ∈ s.pending company, s.company? r.companyId ≠ none := by
    intro r hMem
    rw [(mem_pending.mp hMem).2.1]
    exact company?_ne_none_of_isActive hActive
  obtain ⟨written, hWritten⟩ : ∃ written,
      s.issueRows a settings.defaultControls expiry 0 (s.pending company) = .ok written :=
    issueRows_succeed (validate_of_checks hNone) hReadable hCompanies hDistinct hNew hUnused
      (by rw [Nat.zero_add]; exact Nat.le_refl _)
  rw [hIssue, hWritten]
  exact ⟨_, rfl⟩

end Store

end CardLedger
