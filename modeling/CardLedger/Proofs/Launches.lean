import CardLedger.Proofs.NewCompanies

/-!
# Starts one after the other

A ledger is started again and again on the same store, with the same settings or with others, and some
of the starts fail. A start adds what belongs to companies that were not known before it and changes
nothing else; once one has succeeded, the same settings have nothing left to add.
-/

namespace CardLedger

/-- The settings that a start takes from what stands under their path; nothing there means the defaults. -/
def Settings.ofEntry (path : String) (entry : FileEntry) : Except Error Settings :=
  if path.isEmpty then .ok {}
  else
    match entry with
    | .absent => .ok {}
    | entry => ofFile path entry.text

/-- A start: the path of the settings, what stands there, and the surroundings of the operations. -/
structure Launch where
  path : String
  entry : FileEntry
  ambient : Nat → Ambient

namespace Launch

/-- The settings of a start, unless they cannot be read or are not accepted. -/
def settings (l : Launch) : Except Error Settings :=
  Settings.ofEntry l.path l.entry

/-- The companies that a start is to onboard. -/
def seeds (l : Launch) : List CompanySeed :=
  match l.settings with
  | .ok settings => settings.companies
  | .error _ => []

end Launch

namespace Store

/-- Start on a store; settings that are not accepted stop the start before the store is touched. -/
def launch (s : Store) (l : Launch) : Except Error Unit × Store :=
  match l.settings with
  | .ok settings => s.start l.ambient settings
  | .error e => (.error e, s)

/-- The store after starts one after the other. -/
def afterLaunches (s : Store) (launches : List Launch) : Store :=
  launches.foldl (fun s l => (s.launch l).2) s

@[simp]
theorem afterLaunches_nil (s : Store) : s.afterLaunches [] = s := rfl

variable {s next : Store} {a b : Nat → Ambient} {l : Launch} {new : NewRows}

/-! ## What a start adds -/

theorem start_eq_ok {settings : Settings} (hStart : (s.start a settings).1 = .ok ()) :
    (s.onboardAll a settings.issuance settings.companies).1 = .ok () ∧
      ∃ z, settings.authorization.authorizer = .ok z := by
  unfold start at hStart
  split at hStart
  · cases hStart
  · next hOnboard =>
      obtain ⟨z, hAuthorizer, -⟩ := map_eq_ok_iff.mp hStart
      exact ⟨by rw [hOnboard], z, hAuthorizer⟩

/-- A start adds rows of companies that were not known before, or nothing. -/
theorem launch_withRows (hReferenced : s.Referenced) :
    (s.launch l).2.Referenced ∧
      ∃ new : NewRows, (s.launch l).2 = s.withRows new ∧ new.Onboard s l.seeds := by
  unfold launch Launch.seeds
  cases l.settings with
  | error e => exact ⟨hReferenced, {}, (s.withRows_nothing).symm, .nothing⟩
  | ok settings =>
      dsimp only
      rw [start_snd]
      exact onboardAll_withRows hReferenced l.ambient settings.issuance settings.companies

theorem afterLaunches_withRows (hReferenced : s.Referenced) (launches : List Launch) :
    (s.afterLaunches launches).Referenced ∧
      ∃ new : NewRows, s.afterLaunches launches = s.withRows new := by
  induction launches generalizing s with
  | nil => exact ⟨hReferenced, {}, (s.withRows_nothing).symm⟩
  | cons l rest ih =>
      obtain ⟨hNext, new, hStore, -⟩ := launch_withRows (l := l) hReferenced
      obtain ⟨hLater, more, hMore⟩ := ih hNext
      refine ⟨hLater, new.append more, hMore.trans ?_⟩
      rw [withRows_append, hStore]

/-! ## Starting again -/

theorem isSome_companyByEmail?_withRows {email : String} (hKnown : (s.companyByEmail? email).isSome) :
    ((s.withRows new).companyByEmail? email).isSome := by
  rw [isSome_companyByEmail?] at hKnown ⊢
  obtain ⟨c, hMem, hEmail⟩ := hKnown
  exact ⟨c, List.mem_append_left _ hMem, hEmail⟩

/-- A company whose onboarding has succeeded is known. -/
theorem OnboardingEnd.isSome_companyByEmail? {settings : IssuanceSettings} {seed : CompanySeed}
    (hEnd : s.OnboardingEnd a settings seed (.ok ()) next) : (next.companyByEmail? seed.email).isSome := by
  have hRegistered : ∀ {registered : Company × Store},
      s.registerCompany (a 0) seed.newCompany = .ok registered →
      (registered.2.companyByEmail? seed.email).isSome := by
    intro registered hRegister
    obtain ⟨hEmail, -, -, hStore⟩ := registerCompany_registers hRegister
    rw [Store.isSome_companyByEmail?, hStore]
    exact ⟨registered.1, List.mem_append_right _ (List.mem_singleton_self _), hEmail⟩
  cases hEnd with
  | known hKnown => exact hKnown
  | registered hUnknown hRegister hNobody => exact hRegistered hRegister
  | @issued registered queued issued hUnknown hRegister hSomebody hEnqueue hIssue =>
      -- companies are looked up among companies, to which queueing and issuing add none
      have hCompanies : issued.2.companies = registered.2.companies := by
        obtain ⟨-, -, hQueued⟩ := enqueue_eq_ok hEnqueue
        rw [issue_frame hIssue, hQueued]
      unfold companyByEmail?
      rw [hCompanies]
      exact hRegistered hRegister

/-- Once all companies of a list have been onboarded, each of them is known. -/
theorem known_of_onboardAll {settings : IssuanceSettings} {seeds : List CompanySeed}
    (hReferenced : s.Referenced) (hAll : (s.onboardAll a settings seeds).1 = .ok ()) :
    ∀ seed ∈ seeds, ((s.onboardAll a settings seeds).2.companyByEmail? seed.email).isSome := by
  induction seeds generalizing s a with
  | nil => simp
  | cons first rest ih =>
      have hEnd := s.onboard_end a settings first
      unfold onboardAll at hAll ⊢
      split at hAll
      · cases hAll
      · next onboarded hOnboard =>
          rw [hOnboard] at hEnd
          have hNext := (hEnd.withRows hReferenced).1
          obtain ⟨-, new, hLater, -⟩ :=
            onboardAll_withRows hNext (fun i => a (i + 3)) settings rest
          intro seed hMem
          rcases List.mem_cons.mp hMem with rfl | hRest
          · rw [hLater]
            exact isSome_companyByEmail?_withRows hEnd.isSome_companyByEmail?
          · exact ih hNext hAll seed hRest

/-- Companies that are all known are all passed over. -/
theorem onboardAll_of_known {settings : IssuanceSettings} {seeds : List CompanySeed}
    (hKnown : ∀ seed ∈ seeds, (s.companyByEmail? seed.email).isSome) :
    s.onboardAll a settings seeds = (.ok (), s) := by
  induction seeds generalizing a with
  | nil => rfl
  | cons seed rest ih =>
      unfold onboardAll
      rw [onboard_of_known (hKnown seed List.mem_cons_self)]
      exact ih fun later hMem => hKnown later (List.mem_cons_of_mem seed hMem)

/-- Settings with which a start has succeeded add nothing to what has come of its store. -/
theorem start_again {settings : Settings} (hReferenced : s.Referenced)
    (hStart : (s.start a settings).1 = .ok ()) :
    ((s.start a settings).2.withRows new).start b settings =
      (.ok (), (s.start a settings).2.withRows new) := by
  obtain ⟨hAll, z, hAuthorizer⟩ := start_eq_ok hStart
  have hKnown : ∀ seed ∈ settings.companies,
      (((s.start a settings).2.withRows new).companyByEmail? seed.email).isSome := by
    intro seed hMem
    rw [start_snd]
    exact isSome_companyByEmail?_withRows (known_of_onboardAll hReferenced hAll seed hMem)
  rw [start, onboardAll_of_known hKnown, hAuthorizer]
  rfl

end Store

/-- Starts only add, and repeating one adds nothing. Take any starts on a store that keeps its references,
and one more, however it ends. It adds rows at the end of the tables, all of them of companies from its
settings of which the store knew neither the identifier nor the address, and leaves every row as it was;
with settings that cannot be read or are not accepted it adds nothing. And if it has succeeded, then
after any further starts another one with what stood under its path succeeds too, and changes nothing. -/
theorem launches_only_add (s : Store) (hReferenced : s.Referenced) (before : List Launch) (l : Launch) :
    (∃ new : NewRows, ((s.afterLaunches before).launch l).2 = (s.afterLaunches before).withRows new ∧
        new.Onboard (s.afterLaunches before) l.seeds) ∧
      (∀ e, l.settings = .error e →
        (s.afterLaunches before).launch l = (.error e, s.afterLaunches before)) ∧
      (((s.afterLaunches before).launch l).1 = .ok () → ∀ between b,
        (((s.afterLaunches before).launch l).2.afterLaunches between).launch { l with ambient := b } =
          (.ok (), ((s.afterLaunches before).launch l).2.afterLaunches between)) := by
  obtain ⟨hHeld, -⟩ := Store.afterLaunches_withRows hReferenced before
  obtain ⟨hNext, hNew⟩ := Store.launch_withRows (l := l) hHeld
  refine ⟨hNew, fun e hSettings => ?_, fun hLaunch between b => ?_⟩
  · unfold Store.launch
    rw [hSettings]
  · obtain ⟨-, new, hLater⟩ := Store.afterLaunches_withRows hNext between
    rw [hLater]
    have hAgain : ({ l with ambient := b } : Launch).settings = l.settings := rfl
    unfold Store.launch at hLaunch ⊢
    rw [hAgain]
    cases hSettings : l.settings with
    | error e =>
        rw [hSettings] at hLaunch
        cases hLaunch
    | ok settings =>
        rw [hSettings] at hLaunch
        exact Store.start_again hHeld hLaunch

namespace Sample

/-- A start of a number with a text of settings. -/
def launch (number : Nat) (text : String) : Launch :=
  ⟨"config.toml", .file text, fun n => surroundings (number + n)⟩

/-- Settings with a company of one employee. -/
def companySettings : String :=
  "[[companies]]\nname = \"Beta\"\nemail = \"Office@beta.example\"\n" ++
    "[[companies.employees]]\nemployee_id = \"00000000-0000-0000-0000-000000000007\"\n" ++
    "employee_email = \"bob@beta.example\"\n"

/-- What a run of the workflow and a start with settings of no use leave. -/
def held : Store :=
  (Store.run {} opening).afterLaunches [launch 10 "companies = 1"]

/-- A start that adds a company. -/
def expansion : Launch :=
  launch 20 companySettings

end Sample

/-- After a run of the workflow and a start with settings of no use, a start adds a company with a card,
and another one with the same settings adds nothing. -/
theorem launches_only_add_of_sample :
    (Store.run {} Sample.opening).Referenced ∧ (Sample.held.launch Sample.expansion).1 = .ok () ∧
      (Sample.held.launch Sample.expansion).2.cards.length = Sample.held.cards.length + 1 ∧
      ∀ b, (Sample.held.launch Sample.expansion).2.launch { Sample.expansion with ambient := b } =
        (.ok (), (Sample.held.launch Sample.expansion).2) := by
  have hReferenced := Store.Referenced.empty.run Sample.opening
  have hStarts : (Sample.held.launch Sample.expansion).1.toOption.isSome = true ∧
      (Sample.held.launch Sample.expansion).2.cards.length = Sample.held.cards.length + 1 := by
    decide +kernel
  obtain ⟨_, hLaunch⟩ := exists_ok_of_isSome hStarts.1
  obtain ⟨-, -, hAgain⟩ := launches_only_add (Store.run {} Sample.opening) hReferenced
    [Sample.launch 10 "companies = 1"] Sample.expansion
  refine ⟨hReferenced, hLaunch, hStarts.2, fun b => ?_⟩
  have hNext := hAgain hLaunch [] b
  rwa [Store.afterLaunches_nil] at hNext

end CardLedger
