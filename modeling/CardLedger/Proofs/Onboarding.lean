import CardLedger.Onboarding
import CardLedger.Proofs.IssuanceFailures
import CardLedger.Proofs.Workflow
import CardLedger.Startup

/-!
# Onboarding step by step

Onboarding a company registers it, queues its employees and issues their cards. Here the ways in which
this can end are told apart, each with the operations that went through before it.

The three operations are not one. Where queueing or issuing fails, the company stays registered, and as
a company is known by its registration alone, no later onboarding takes up what is left to do.
-/

namespace CardLedger.Store

/-- The ways in which the onboarding of a company can end: what it tells, and the store that it leaves. -/
inductive OnboardingEnd (s : Store) (a : Nat → Ambient) (settings : IssuanceSettings)
    (seed : CompanySeed) : Except Error Unit → Store → Prop where
  | known (hKnown : (s.companyByEmail? seed.email).isSome) : OnboardingEnd s a settings seed (.ok ()) s
  | refused {e : Error} (hUnknown : s.companyByEmail? seed.email = none)
      (hRefused : s.registerCompany (a 0) seed.newCompany = .error e) :
      OnboardingEnd s a settings seed (.error e) s
  | registered {registered : Company × Store} (hUnknown : s.companyByEmail? seed.email = none)
      (hRegister : s.registerCompany (a 0) seed.newCompany = .ok registered)
      (hNobody : seed.employees = []) : OnboardingEnd s a settings seed (.ok ()) registered.2
  | unqueued {registered : Company × Store} {e : Error} (hUnknown : s.companyByEmail? seed.email = none)
      (hRegister : s.registerCompany (a 0) seed.newCompany = .ok registered)
      (hSomebody : seed.employees ≠ [])
      (hUnqueued : registered.2.enqueue (a 1) registered.1.id seed.employees = .error e) :
      OnboardingEnd s a settings seed (.error e) registered.2
  | unissued {registered : Company × Store} {queued : List QueueRow × Store} {e : Error}
      (hUnknown : s.companyByEmail? seed.email = none)
      (hRegister : s.registerCompany (a 0) seed.newCompany = .ok registered)
      (hSomebody : seed.employees ≠ [])
      (hEnqueue : registered.2.enqueue (a 1) registered.1.id seed.employees = .ok queued)
      (hUnissued : queued.2.issue (a 2) settings registered.1.id = .error e) :
      OnboardingEnd s a settings seed (.error e) queued.2
  | issued {registered : Company × Store} {queued : List QueueRow × Store} {issued : List Card × Store}
      (hUnknown : s.companyByEmail? seed.email = none)
      (hRegister : s.registerCompany (a 0) seed.newCompany = .ok registered)
      (hSomebody : seed.employees ≠ [])
      (hEnqueue : registered.2.enqueue (a 1) registered.1.id seed.employees = .ok queued)
      (hIssue : queued.2.issue (a 2) settings registered.1.id = .ok issued) :
      OnboardingEnd s a settings seed (.ok ()) issued.2

variable {s : Store} {a : Nat → Ambient} {settings : IssuanceSettings} {seed : CompanySeed}

theorem onboard_end (s : Store) (a : Nat → Ambient) (settings : IssuanceSettings) (seed : CompanySeed) :
    s.OnboardingEnd a settings seed (s.onboard a settings seed).1 (s.onboard a settings seed).2 := by
  unfold onboard
  cases hLookup : s.companyByEmail? seed.email with
  | some known => exact .known (by rw [hLookup]; rfl)
  | none =>
      rw [if_neg (by decide)]
      cases hRegister : s.registerCompany (a 0) seed.newCompany with
      | error e => exact .refused hLookup hRegister
      | ok registered =>
          dsimp only
          cases hEmployees : seed.employees with
          | nil => exact .registered hLookup hRegister hEmployees
          | cons employee rest =>
              have hSomebody : seed.employees ≠ [] := by simp [hEmployees]
              rw [if_neg (by simp), ← hEmployees]
              cases hEnqueue : registered.2.enqueue (a 1) registered.1.id seed.employees with
              | error e => exact .unqueued hLookup hRegister hSomebody hEnqueue
              | ok queued =>
                  dsimp only
                  cases hIssue : queued.2.issue (a 2) settings registered.1.id with
                  | error e => exact .unissued hLookup hRegister hSomebody hEnqueue hIssue
                  | ok issued => exact .issued hLookup hRegister hSomebody hEnqueue hIssue

/-- What survives every onboarding, however it ends, survives one after the other. -/
theorem onboardAll_preserves {P : Store → Prop}
    (hStep : ∀ {s next : Store} {a : Nat → Ambient} {seed : CompanySeed} {outcome : Except Error Unit},
      P s → s.OnboardingEnd a settings seed outcome next → P next)
    (hStart : P s) (a : Nat → Ambient) (seeds : List CompanySeed) :
    P (s.onboardAll a settings seeds).2 := by
  induction seeds generalizing s a with
  | nil => exact hStart
  | cons seed rest ih =>
      have hFirst := hStep hStart (s.onboard_end a settings seed)
      unfold onboardAll
      split
      · next hOnboard => rwa [hOnboard] at hFirst
      · next hOnboard =>
          rw [hOnboard] at hFirst
          exact ih hFirst _

/-- What a start leaves is what its onboarding leaves. -/
theorem start_snd (a : Nat → Ambient) (settings : Settings) :
    (s.start a settings).2 = (s.onboardAll a settings.issuance settings.companies).2 := by
  unfold start
  split
  · next hOnboard => rw [hOnboard]
  · next hOnboard => rw [hOnboard]

/-! ## Companies that are known -/

variable {registered : Company × Store} {queued : List QueueRow × Store} {e : Error}

theorem isSome_companyByEmail? {email : String} :
    (s.companyByEmail? email).isSome ↔ ∃ c ∈ s.companies, c.email = Text.normalize email := by
  unfold companyByEmail?
  rw [List.find?_isSome]
  simp only [beq_iff_eq]

/-- A company that is known is passed over, whatever there is left to do for it. -/
theorem onboard_of_known (hKnown : (s.companyByEmail? seed.email).isSome) :
    s.onboard a settings seed = (.ok (), s) := by
  unfold onboard
  rw [if_pos hKnown]

/-- A company that is registered is new, active, and known by the normal form of its address. -/
theorem registerCompany_registers {ambient : Ambient} {new : NewCompany}
    (hRegister : s.registerCompany ambient new = .ok registered) :
    registered.1.email = Text.normalize new.email ∧ registered.1.status = .active ∧
      (∀ old ∈ s.companies, old.id ≠ registered.1.id ∧ old.email ≠ registered.1.email) ∧
      registered.2 = { s with companies := s.companies ++ [registered.1] } := by
  have hStore := registerCompany_eq_ok hRegister
  obtain ⟨_, -, hRest⟩ := bind_eq_ok_iff.mp hRegister
  obtain ⟨-, hRest⟩ := unless_eq_ok_iff.mp hRest
  obtain ⟨next, hInsert, hResult⟩ := bind_eq_ok_iff.mp hRest
  obtain ⟨hNew, -⟩ := unless_eq_ok_iff.mp hInsert
  cases hResult
  exact ⟨rfl, rfl, by simpa [not_or] using hNew, hStore⟩

theorem isActive_of_registerCompany {ambient : Ambient} {new : NewCompany}
    (hRegister : s.registerCompany ambient new = .ok registered) :
    registered.2.IsActive registered.1.id := by
  obtain ⟨-, hActive, hNew, hStore⟩ := registerCompany_registers hRegister
  refine ⟨registered.1, ?_, hActive⟩
  have hNone : s.companies.find? (fun old => old.id == registered.1.id) = none := by
    simpa using fun old hMem => (hNew old hMem).1
  unfold company?
  rw [hStore, List.find?_append, hNone]
  simp

/-- Employees that were queued are pending. -/
theorem pending_ne_nil {ambient : Ambient} {company : Uuid} {employees : List EmployeeRecord}
    (hSomebody : employees ≠ []) (hEnqueue : s.enqueue ambient company employees = .ok queued) :
    queued.2.pending company ≠ [] := by
  obtain ⟨-, hRows, hStore⟩ := enqueue_eq_ok hEnqueue
  obtain ⟨first, rest, hFirst⟩ := List.exists_cons_of_ne_nil hSomebody
  have hPending : first.queueRow company (ambient.freshId 0) (ambient.freshId 1) ambient.now ∈
      queued.2.pending company := by
    rw [mem_pending, hStore, hRows, hFirst]
    simp [EmployeeRecord.queueRow]
  exact List.ne_nil_of_mem hPending

/-! ## Onboarding that fails -/

/-- What an onboarding leaves that has registered its company and then failed: the company and no more if
an e-mail address is blank, the company with its queue if the expiry is outside the calendar; if the
tables failed, one or the other. -/
inductive HalfOnboarded (s : Store) (a : Nat → Ambient) (settings : IssuanceSettings)
    (seed : CompanySeed) (company : Company) : Error → Store → Prop where
  | unqueued (position : Nat) (hBlank : firstBlankEmail? seed.employees = some position) :
      HalfOnboarded s a settings seed company (.invalidInput (.employeeEmail position))
        { s with companies := s.companies ++ [company] }
  | unissued (rows : List QueueRow) (hNamed : firstBlankEmail? seed.employees = none)
      (hExpiry : (a 2).now.addMonths? (validityMonths settings.validityYears) = none)
      (hPending : rows ≠ [] ∧ ∀ r ∈ rows, r.companyId = company.id ∧ r.status = .pending) :
      HalfOnboarded s a settings seed company (.config (.validityOverflow settings.validityYears))
        { s with companies := s.companies ++ [company], queue := s.queue ++ rows }
  | unwritten (text : String) (rows : List QueueRow)
      (hPending : ∀ r ∈ rows, r.companyId = company.id ∧ r.status = .pending) :
      HalfOnboarded s a settings seed company (.database text)
        { s with companies := s.companies ++ [company], queue := s.queue ++ rows }

theorem halfOnboarded_of_enqueue (hRegister : s.registerCompany (a 0) seed.newCompany = .ok registered)
    (hSomebody : seed.employees ≠ [])
    (hUnqueued : registered.2.enqueue (a 1) registered.1.id seed.employees = .error e) :
    s.HalfOnboarded a settings seed registered.1 e registered.2 := by
  rw [registerCompany_eq_ok hRegister]
  by_cases hTables : e.IsOfTables
  · obtain ⟨text, rfl⟩ := hTables
    have hHalf : s.HalfOnboarded a settings seed registered.1 (.database text)
        { s with companies := s.companies ++ [registered.1], queue := s.queue ++ [] } :=
      .unwritten text [] (by simp)
    rwa [List.append_nil] at hHalf
  · have hActive := isActive_of_registerCompany hRegister
    obtain ⟨position, hBlank, rfl⟩ := enqueue_eq_error hSomebody hActive hTables hUnqueued
    exact .unqueued position hBlank

theorem halfOnboarded_of_issue (hRegister : s.registerCompany (a 0) seed.newCompany = .ok registered)
    (hSomebody : seed.employees ≠ []) (hControls : checkControls settings.defaultControls = .ok ())
    (hEnqueue : registered.2.enqueue (a 1) registered.1.id seed.employees = .ok queued)
    (hUnissued : queued.2.issue (a 2) settings registered.1.id = .error e) :
    s.HalfOnboarded a settings seed registered.1 e queued.2 := by
  obtain ⟨hActive, hRows, hStore⟩ := enqueue_eq_ok hEnqueue
  have hPending : queued.1 ≠ [] ∧ ∀ r ∈ queued.1, r.companyId = registered.1.id ∧ r.status = .pending := by
    rw [hRows]
    refine ⟨by simpa using hSomebody, fun r hMem => ?_⟩
    obtain ⟨⟨employee, index⟩, -, rfl⟩ := List.mem_map.mp hMem
    exact ⟨rfl, rfl⟩
  -- the queue has changed, the company is as active as before
  have hStillActive : queued.2.IsActive registered.1.id := by
    rw [hStore]
    exact hActive
  have hQueued := pending_ne_nil hSomebody hEnqueue
  rw [hStore, registerCompany_eq_ok hRegister]
  by_cases hTables : e.IsOfTables
  · obtain ⟨text, rfl⟩ := hTables
    exact .unwritten text queued.1 hPending.2
  · obtain ⟨hExpiry, rfl⟩ := issue_eq_error hStillActive hControls hQueued hTables hUnissued
    exact .unissued queued.1 (firstBlankEmail?_of_enqueue hEnqueue) hExpiry hPending

/-- A company that was not there before stays behind half onboarded, and from then on it is passed over:
no onboarding with its address does anything while it is in the tables, whatever settings and employees
it is given. -/
structure LeftBehind (s : Store) (a : Nat → Ambient) (settings : IssuanceSettings) (seed : CompanySeed)
    (company : Company) (e : Error) (next : Store) : Prop where
  isNew : ∀ old ∈ s.companies, old.email ≠ company.email
  isKnown : company.email = Text.normalize seed.email
  half : s.HalfOnboarded a settings seed company e next
  passedOver : ∀ later : Store, company ∈ later.companies → ∀ b others (again : CompanySeed),
    Text.normalize again.email = company.email → later.onboard b others again = (.ok (), later)

theorem leftBehind_of_half {next : Store}
    (hRegister : s.registerCompany (a 0) seed.newCompany = .ok registered)
    (hHalf : s.HalfOnboarded a settings seed registered.1 e next) :
    s.LeftBehind a settings seed registered.1 e next := by
  obtain ⟨hEmail, -, hNew, -⟩ := registerCompany_registers hRegister
  exact
    { isNew := fun old hMem => (hNew old hMem).2
      isKnown := hEmail
      half := hHalf
      passedOver := fun later hMem b others again hAgain =>
        onboard_of_known (isSome_companyByEmail?.mpr ⟨registered.1, hMem, hAgain.symm⟩) }

/-- An onboarding that fails does so in one of two ways. Either the registration is refused, and all is
as before; or the company stays behind without the cards of its employees, because one of them has a
blank e-mail address, because their cards would expire outside the calendar, or because the tables failed. -/
theorem onboard_fails_whole_or_half (text : String) (settings : Settings)
    (hParse : Settings.parse text = .ok settings) (s : Store) (a : Nat → Ambient) (seed : CompanySeed)
    (e : Error) (hFails : (s.onboard a settings.issuance seed).1 = .error e) :
    (s.registerCompany (a 0) seed.newCompany = .error e ∧ (s.onboard a settings.issuance seed).2 = s) ∨
      ∃ company, s.LeftBehind a settings.issuance seed company e
        (s.onboard a settings.issuance seed).2 := by
  have hControls := Settings.checkControls_of_validate (Settings.validate_of_parse hParse)
  have hEnd := s.onboard_end a settings.issuance seed
  rw [hFails] at hEnd
  generalize (s.onboard a settings.issuance seed).2 = next at hEnd ⊢
  cases hEnd with
  | refused hUnknown hRefused => exact .inl ⟨hRefused, rfl⟩
  | unqueued hUnknown hRegister hSomebody hUnqueued =>
      exact .inr ⟨_, leftBehind_of_half hRegister (halfOnboarded_of_enqueue hRegister hSomebody hUnqueued)⟩
  | unissued hUnknown hRegister hSomebody hEnqueue hUnissued =>
      have hHalf := halfOnboarded_of_issue hRegister hSomebody hControls hEnqueue hUnissued
      exact .inr ⟨_, leftBehind_of_half hRegister hHalf⟩

end CardLedger.Store

namespace CardLedger

namespace Sample

/-- A company with an employee whose e-mail address is blank. -/
def blankSeed : CompanySeed :=
  ⟨"Acme", "ops@acme.example", none, none, [⟨.ofNat 7, " "⟩]⟩

/-- The same company with the address put right. -/
def correctedSeed : CompanySeed :=
  { blankSeed with employees := [⟨.ofNat 7, "ada@acme.example"⟩] }

end Sample

/-- A blank e-mail address stops the onboarding once the company is registered. -/
theorem onboard_fails_whole_or_half_of_sample :
    Settings.parse "" = .ok {} ∧
      (Store.onboard {} Sample.surroundings {} Sample.blankSeed).1 =
        .error (.invalidInput (.employeeEmail 1)) ∧
      ∃ company, Store.LeftBehind {} Sample.surroundings {} Sample.blankSeed company
        (.invalidInput (.employeeEmail 1))
        (Store.onboard {} Sample.surroundings {} Sample.blankSeed).2 := by
  have hParse : Settings.parse "" = .ok {} := rfl
  have hFails : (Store.onboard {} Sample.surroundings {} Sample.blankSeed).1 =
      .error (.invalidInput (.employeeEmail 1)) := by
    rw [← failure?_eq_some_iff]
    decide +kernel
  have hRegistered : (Store.onboard {} Sample.surroundings {} Sample.blankSeed).2.companies ≠ [] := by
    decide +kernel
  rcases Store.onboard_fails_whole_or_half "" {} hParse {} Sample.surroundings Sample.blankSeed _ hFails
    with ⟨-, hSame⟩ | hLeft
  · rw [hSame] at hRegistered
    exact absurd rfl hRegistered
  · exact ⟨hParse, hFails, hLeft⟩

/-- Onboarding is not all or nothing: a failure leaves the company in an empty store, and once its
settings are put right the company is passed over, and its employee never gets a card. -/
theorem onboard_not_all_or_nothing :
    let first := Store.onboard {} Sample.surroundings {} Sample.blankSeed
    let second := first.2.onboard (fun n => Sample.surroundings (n + 3)) {} Sample.correctedSeed
    Settings.parse "" = .ok {} ∧
      first.1 = .error (.invalidInput (.employeeEmail 1)) ∧ first.2.companies ≠ [] ∧
      second.1 = .ok () ∧ second.2.cards = [] := by
  intro first second
  have hFirst : first.1 = .error (.invalidInput (.employeeEmail 1)) := by
    rw [← failure?_eq_some_iff]
    decide +kernel
  have hSecond : second.1 = .ok () := rfl
  exact ⟨rfl, hFirst, by decide +kernel, hSecond, by decide +kernel⟩

end CardLedger
