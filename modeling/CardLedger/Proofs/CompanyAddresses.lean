import CardLedger.Proofs.AuditTrail
import CardLedger.Proofs.NormalForm

/-!
# Companies and their addresses

A company is known by its e-mail address, and the same address in other letter cases or with blanks
around it is the same address. That no two companies share one is the work of the registration, which
looks a new address up before it inserts it. The constraint of the table on addresses is never needed.

All rests on normal forms being normal: the registration stores a normal form, looks for the normal form
of it, and others look later for the normal form of whatever they have.
-/

namespace CardLedger

/-! ## What companies keep -/

/-- What a company may have become: its status is set, and the time of the update with it. -/
def Company.StaysAs (c later : Company) : Prop :=
  later = { c with status := later.status, updatedAt := later.updatedAt }

namespace Company.StaysAs

variable {c later last : Company}

theorem refl (c : Company) : c.StaysAs c := rfl

theorem trans (hLater : c.StaysAs later) (hLast : later.StaysAs last) : c.StaysAs last := by
  unfold StaysAs at *
  rw [hLater] at hLast
  exact hLast

theorem id (hStays : c.StaysAs later) : later.id = c.id := by
  rw [hStays]

theorem name (hStays : c.StaysAs later) : later.name = c.name := by
  rw [hStays]

theorem email (hStays : c.StaysAs later) : later.email = c.email := by
  rw [hStays]

end Company.StaysAs

/-- A name without blanks around it, of 2 to 255 characters. -/
structure Company.IsNamed (c : Company) : Prop where
  trimmed : Text.trim c.name = c.name
  atLeast : 2 ≤ c.name.length
  atMost : c.name.length ≤ 255

/-- Companies have identifiers and addresses of their own, addresses in normal form, and proper names. -/
structure Store.WellAddressed (s : Store) : Prop where
  keyed : (s.companies.map (·.id)).Nodup
  distinct : (s.companies.map (·.email)).Nodup
  normal : ∀ c ∈ s.companies, Text.normalize c.email = c.email
  named : ∀ c ∈ s.companies, c.IsNamed

/-- The companies of a store are well addressed, and among them are those of an earlier store. -/
structure CompaniesKept (s next : Store) : Prop where
  addressed : next.WellAddressed
  rows : RowsKept Company.StaysAs s.companies next.companies

variable {s next last : Store} {a : Ambient} {new : NewCompany}

namespace Store.WellAddressed

theorem empty : Store.WellAddressed {} := by
  constructor <;> simp

theorem of_same (hAddressed : s.WellAddressed) (hSame : next.companies = s.companies) :
    next.WellAddressed where
  keyed := by rw [hSame]; exact hAddressed.keyed
  distinct := by rw [hSame]; exact hAddressed.distinct
  normal := by rw [hSame]; exact hAddressed.normal
  named := by rw [hSame]; exact hAddressed.named

/-- Companies that stay what they are stay well addressed. -/
theorem of_map {change : Company → Company} (hAddressed : s.WellAddressed)
    (hStays : ∀ c ∈ s.companies, c.StaysAs (change c)) (hMap : next.companies = s.companies.map change) :
    next.WellAddressed where
  keyed := by
    have hIds : s.companies.map ((·.id) ∘ change) = s.companies.map (·.id) :=
      List.map_congr_left fun c hMem => (hStays c hMem).id
    rw [hMap, List.map_map, hIds]
    exact hAddressed.keyed
  distinct := by
    have hEmails : s.companies.map ((·.email) ∘ change) = s.companies.map (·.email) :=
      List.map_congr_left fun c hMem => (hStays c hMem).email
    rw [hMap, List.map_map, hEmails]
    exact hAddressed.distinct
  normal := by
    rw [hMap, List.forall_mem_map]
    intro c hMem
    rw [(hStays c hMem).email]
    exact hAddressed.normal c hMem
  named := by
    rw [hMap, List.forall_mem_map]
    intro c hMem
    obtain ⟨hTrimmed, hLeast, hMost⟩ := hAddressed.named c hMem
    constructor <;> rwa [(hStays c hMem).name]

/-- A company that is added under an identifier and an address of its own. -/
theorem of_append {c : Company} (hAddressed : s.WellAddressed)
    (hNew : ∀ old ∈ s.companies, old.id ≠ c.id ∧ old.email ≠ c.email)
    (hNormal : Text.normalize c.email = c.email) (hNamed : c.IsNamed)
    (hAppend : next.companies = s.companies ++ [c]) : next.WellAddressed where
  keyed := by
    rw [hAppend]
    exact nodup_map_concat hAddressed.keyed fun old hMem => (hNew old hMem).1
  distinct := by
    rw [hAppend]
    exact nodup_map_concat hAddressed.distinct fun old hMem => (hNew old hMem).2
  normal := by
    rw [hAppend, List.forall_mem_append]
    exact ⟨hAddressed.normal, List.forall_mem_singleton.mpr hNormal⟩
  named := by
    rw [hAppend, List.forall_mem_append]
    exact ⟨hAddressed.named, List.forall_mem_singleton.mpr hNamed⟩

end Store.WellAddressed

/-! ## Registration -/

/-- The row of a new company. -/
def NewCompany.row (new : NewCompany) (a : Ambient) : Company :=
  { id := a.freshId 0, name := Text.trim new.name, email := Text.normalize new.email
    address := new.address, phone := new.phone, status := .active, createdAt := a.now
    updatedAt := a.now }

theorem NewCompany.isNamed_of_validate {u : Unit} (hValid : new.validate = .ok u) :
    (new.row a).IsNamed := by
  unfold NewCompany.validate at hValid
  obtain ⟨hLength, -⟩ := unless_eq_ok_iff.mp hValid
  exact
    { trimmed := Text.trim_trim new.name
      atLeast := Nat.le_of_not_lt fun hShort => hLength (.inl hShort)
      atMost := Nat.le_of_not_lt fun hLong => hLength (.inr hLong) }

namespace Store

theorem registerCompany_of_invalid {e : Error} (hInvalid : new.validate = .error e) :
    s.registerCompany a new = .error e := by
  unfold registerCompany
  rw [hInvalid]
  rfl

/-- The address that a registration looks up is a normal form already. -/
theorem isSome_companyByEmail?_normalize :
    (s.companyByEmail? (Text.normalize new.email)).isSome ↔
      ∃ c ∈ s.companies, c.email = Text.normalize new.email := by
  rw [isSome_companyByEmail?, Text.normalize_normalize]

theorem registerCompany_of_valid (hValid : new.validate = .ok ()) :
    s.registerCompany a new =
      if ∃ c ∈ s.companies, c.email = Text.normalize new.email then
        .error (.companyExists (Text.normalize new.email))
      else (s.insertCompany (new.row a)).map fun next => (new.row a, next) := by
  unfold registerCompany
  rw [hValid, ok_bind]
  dsimp only
  simp only [isSome_companyByEmail?_normalize]
  split
  · rfl
  · unfold NewCompany.row
    cases s.insertCompany _ with
    | error e => rfl
    | ok next => rfl

theorem registerCompany_of_known (hValid : new.validate = .ok ())
    (hKnown : ∃ c ∈ s.companies, c.email = Text.normalize new.email) :
    s.registerCompany a new = .error (.companyExists (Text.normalize new.email)) := by
  rw [registerCompany_of_valid hValid, if_pos hKnown]

/-- Under a new identifier an address that is not known is all that it takes. -/
theorem registerCompany_of_unknown (hValid : new.validate = .ok ())
    (hUnknown : ∀ c ∈ s.companies, c.email ≠ Text.normalize new.email)
    (hFresh : ∀ c ∈ s.companies, c.id ≠ a.freshId 0) :
    s.registerCompany a new =
      .ok (new.row a, { s with companies := s.companies ++ [new.row a] }) := by
  have hNew : ¬ (s.companies.any fun old =>
      old.id == (new.row a).id || old.email == (new.row a).email) = true := by
    simpa [NewCompany.row] using fun c hMem => ⟨hFresh c hMem, hUnknown c hMem⟩
  rw [registerCompany_of_valid hValid, if_neg (by simpa using hUnknown)]
  unfold insertCompany
  rw [if_neg hNew]
  rfl

theorem registerCompany_eq_row {result : Company × Store}
    (hRegister : s.registerCompany a new = .ok result) :
    new.validate = .ok () ∧ result.1 = new.row a := by
  obtain ⟨_, hValid, -⟩ := bind_eq_ok_iff.mp hRegister
  refine ⟨hValid, ?_⟩
  rw [registerCompany_of_valid hValid] at hRegister
  obtain ⟨-, hInsert⟩ := unless_eq_ok_iff.mp hRegister
  obtain ⟨next, -, rfl⟩ := map_eq_ok_iff.mp hInsert
  rfl

end Store

/-! ## Everything that callers do -/

namespace CompaniesKept

theorem of_same (hAddressed : s.WellAddressed) (hSame : next.companies = s.companies) :
    CompaniesKept s next where
  addressed := hAddressed.of_same hSame
  rows := by
    rw [hSame]
    exact .refl .refl

theorem refl (hAddressed : s.WellAddressed) : CompaniesKept s s :=
  of_same hAddressed rfl

theorem trans (hFirst : CompaniesKept s next) (hSecond : CompaniesKept next last) :
    CompaniesKept s last where
  addressed := hSecond.addressed
  rows := .trans .trans hFirst.rows hSecond.rows

theorem registerCompany {result : Company × Store} (hAddressed : s.WellAddressed)
    (hRegister : s.registerCompany a new = .ok result) : CompaniesKept s result.2 := by
  -- it has looked for identifier and address among the companies that are there
  obtain ⟨hEmail, -, hNew, hStore⟩ := Store.registerCompany_registers hRegister
  obtain ⟨hValid, hCompany⟩ := Store.registerCompany_eq_row hRegister
  have hCompanies : result.2.companies = s.companies ++ [result.1] := by rw [hStore]
  refine ⟨hAddressed.of_append hNew ?_ ?_ hCompanies, ?_⟩
  · rw [hEmail, Text.normalize_normalize]
  · rw [hCompany]
    exact NewCompany.isNamed_of_validate hValid
  · rw [hCompanies]
    exact .append .refl _

theorem setCompanyStatus {company : Uuid} {status : CompanyStatus} {result : Company × Store}
    (hAddressed : s.WellAddressed) (hSet : s.setCompanyStatus a company status = .ok result) : CompaniesKept s result.2 := by
  obtain ⟨old, hOld, rfl, hChanged⟩ := Store.setCompanyStatus_changes hSet
  have hStays : ∀ c ∈ s.companies, c.StaysAs (if c.id == old.id then result.1 else c) := by
    intro c hMem
    split
    · next hId =>
        -- the key tells that this row is the one that was found
        obtain rfl : c = old := List.inj_on_of_nodup_map hAddressed.keyed hMem hOld (eq_of_beq hId)
        rw [hChanged]
        rfl
    · exact .refl c
  have hStore := congrArg Store.companies (Store.setCompanyStatus_eq_ok hSet)
  refine ⟨hAddressed.of_map hStays hStore, ?_⟩
  rw [hStore]
  exact .map hStays

end CompaniesKept

/-- An operation that goes through registers a company, sets the status of one, or leaves the companies
as they are. -/
theorem companiesKept_of_apply {operation : Operation} (hAddressed : s.WellAddressed)
    (hApply : operation.apply s a = .ok next) : CompaniesKept s next := by
  unfold Operation.apply at hApply
  cases operation with
  | registerCompany new =>
      obtain ⟨result, hRun, rfl⟩ := map_eq_ok_iff.mp hApply
      exact .registerCompany hAddressed hRun
  | setCompanyStatus company status =>
      obtain ⟨result, hRun, rfl⟩ := map_eq_ok_iff.mp hApply
      exact .setCompanyStatus hAddressed hRun
  | enqueue company employees =>
      obtain ⟨result, hRun, rfl⟩ := map_eq_ok_iff.mp hApply
      exact .of_same hAddressed (by rw [(Store.enqueue_eq_ok hRun).2.2])
  | issue settings company =>
      obtain ⟨result, hRun, rfl⟩ := map_eq_ok_iff.mp hApply
      exact .of_same hAddressed (by rw [Store.issue_frame hRun])
  | fundCard company card amount =>
      obtain ⟨result, hRun, rfl⟩ := map_eq_ok_iff.mp hApply
      exact .of_same hAddressed (by rw [Store.fundCard_frame hRun])
  | setSpendingLimit company card limit =>
      obtain ⟨result, hRun, rfl⟩ := map_eq_ok_iff.mp hApply
      obtain ⟨change, -, hStore⟩ := Store.setSpendingLimit_eq_ok hRun
      exact .of_same hAddressed (by rw [hStore, Store.modifyCard_companies])
  | setPeriodLimits company card daily monthly =>
      obtain ⟨result, hRun, rfl⟩ := map_eq_ok_iff.mp hApply
      obtain ⟨change, -, hStore⟩ := Store.setPeriodLimits_eq_ok hRun
      exact .of_same hAddressed (by rw [hStore, Store.modifyCard_companies])
  | blockCard company card reason =>
      obtain ⟨result, hRun, rfl⟩ := map_eq_ok_iff.mp hApply
      obtain ⟨change, -, hStore⟩ := Store.blockCard_eq_ok hRun
      exact .of_same hAddressed (by rw [hStore, Store.modifyCard_companies])
  | upsertControl company card control =>
      obtain ⟨result, hRun, rfl⟩ := map_eq_ok_iff.mp hApply
      exact .of_same hAddressed (by rw [Store.upsertControl_eq_ok hRun])
  | deactivateControl company card kind =>
      obtain ⟨result, hRun, rfl⟩ := map_eq_ok_iff.mp hApply
      exact .of_same hAddressed (by rw [Store.deactivateControl_eq_ok hRun])
  | authorize z company r now =>
      obtain ⟨result, hRun, rfl⟩ := map_eq_ok_iff.mp hApply
      obtain ⟨-, -, -, c, advisories, -, hCommit⟩ := Authorizer.authorize_eq_ok hRun
      exact .of_same hAddressed (by rw [Authorizer.commit_frame hCommit])

theorem companies_of_write {write : LedgerWrite} (hApply : write.apply s a = .ok next) :
    next.companies = s.companies := by
  unfold LedgerWrite.apply at hApply
  cases write with
  | record new createdAt =>
      obtain ⟨result, hRun, rfl⟩ := map_eq_ok_iff.mp hApply
      rw [Store.createTransaction_frame hRun]
  | move transaction status =>
      cases hApply
      rfl
  | debit card amount =>
      obtain ⟨result, hRun, rfl⟩ := map_eq_ok_iff.mp hApply
      rw [Store.debit_frame hRun]
  | credit card amount =>
      obtain ⟨result, hRun, rfl⟩ := map_eq_ok_iff.mp hApply
      rw [Store.credit_frame hRun]

theorem companies_writes (steps : List (LedgerWrite × Ambient)) :
    (steps.foldl Store.afterWrite s).companies = s.companies := by
  induction steps generalizing s with
  | nil => rfl
  | cons step rest ih =>
      refine ih.trans ?_
      exact Store.orLeft_preserves (P := fun next => next.companies = s.companies) rfl
        fun next hApply => companies_of_write hApply

theorem Store.OnboardingEnd.companiesKept {a : Nat → Ambient} {settings : IssuanceSettings}
    {seed : CompanySeed} {outcome : Except Error Unit} (hAddressed : s.WellAddressed)
    (hEnd : s.OnboardingEnd a settings seed outcome next) : CompaniesKept s next := by
  cases hEnd with
  | known hKnown => exact .refl hAddressed
  | refused hUnknown hRefused => exact .refl hAddressed
  | registered hUnknown hRegister hNobody => exact .registerCompany hAddressed hRegister
  | unqueued hUnknown hRegister hSomebody hUnqueued => exact .registerCompany hAddressed hRegister
  | unissued hUnknown hRegister hSomebody hEnqueue hUnissued =>
      have hKept := CompaniesKept.registerCompany hAddressed hRegister
      exact hKept.trans (.of_same hKept.addressed (by rw [(enqueue_eq_ok hEnqueue).2.2]))
  | issued hUnknown hRegister hSomebody hEnqueue hIssue =>
      have hKept := CompaniesKept.registerCompany hAddressed hRegister
      exact hKept.trans
        (.of_same hKept.addressed (by rw [issue_frame hIssue, (enqueue_eq_ok hEnqueue).2.2]))

theorem companiesKept_activity (hAddressed : s.WellAddressed) (activity : Activity) :
    CompaniesKept s (s.afterActivity activity) := by
  cases activity with
  | operation operation a =>
      exact Store.orLeft_preserves (.refl hAddressed) fun next hApply =>
        companiesKept_of_apply hAddressed hApply
  | writes steps kept =>
      cases kept with
      | false => exact .refl hAddressed
      | true => exact .of_same hAddressed (companies_writes steps)
  | start settings a =>
      unfold Store.afterActivity
      dsimp only
      rw [Store.start_snd]
      refine Store.onboardAll_preserves ?_ (.refl hAddressed) a _
      intro _ _ _ _ _ hKept hEnd
      exact hKept.trans (hEnd.companiesKept hKept.addressed)

theorem companiesKept_activities (hAddressed : s.WellAddressed) (activities : List Activity) :
    CompaniesKept s (s.afterActivities activities) := by
  induction activities generalizing s with
  | nil => exact .refl hAddressed
  | cons activity rest ih =>
      have hFirst := companiesKept_activity hAddressed activity
      exact hFirst.trans (ih hFirst.addressed)

/-! ## Looking companies up -/

/-- Under addresses that are distinct, a company is what any form of its address finds. -/
theorem companyByEmail?_of_mem {c : Company} {text : String} (hAddressed : s.WellAddressed)
    (hMem : c ∈ s.companies) (hForm : Text.normalize text = c.email) :
    s.companyByEmail? text = some c := by
  have hSome : (s.companyByEmail? text).isSome :=
    Store.isSome_companyByEmail?.mpr ⟨c, hMem, hForm.symm⟩
  obtain ⟨found, hFound⟩ := Option.isSome_iff_exists.mp hSome
  have hEmail : found.email = Text.normalize text := by
    simpa using List.find?_some hFound
  have hSame : found = c :=
    List.inj_on_of_nodup_map hAddressed.distinct (List.mem_of_find?_eq_some hFound) hMem
      (hEmail.trans hForm)
  rw [hFound, hSame]

/-- Whatever callers do, any form of the address of a company finds it. -/
theorem companyByEmail?_afterActivities {c : Company} {text : String} (hAddressed : s.WellAddressed)
    (hMem : c ∈ s.companies) (hForm : Text.normalize text = c.email) (activities : List Activity) :
    ∃ found, (s.afterActivities activities).companyByEmail? text = some found ∧ c.StaysAs found := by
  have hKept := companiesKept_activities hAddressed activities
  -- the company is still in its place, and its address is still nobody else's
  obtain ⟨i, hRow⟩ := List.mem_iff_getElem?.mp hMem
  obtain ⟨later, hLater, hStays⟩ := hKept.rows i c hRow
  exact ⟨later, companyByEmail?_of_mem hKept.addressed (List.mem_of_getElem? hLater)
    (hForm.trans hStays.email.symm), hStays⟩

/-- What a registration does to a store, told by the companies that are there. -/
structure Store.RegistersByAddress (s : Store) (a : Ambient) (new : NewCompany) : Prop where
  /-- What fails the validation changes nothing. -/
  invalid : ∀ e, new.validate = .error e →
    s.registerCompany a new = .error e ∧ s.afterActivity (.operation (.registerCompany new) a) = s
  /-- An address that is known in any form is refused, and nothing changes. -/
  known : new.validate = .ok () → (∃ c ∈ s.companies, c.email = Text.normalize new.email) →
    s.registerCompany a new = .error (.companyExists (Text.normalize new.email)) ∧
      s.afterActivity (.operation (.registerCompany new) a) = s
  /-- One that is not known adds one active company, if its identifier is new, and from then on every form
  of the address finds it. -/
  unknown : new.validate = .ok () → (∀ c ∈ s.companies, c.email ≠ Text.normalize new.email) →
    (∀ c ∈ s.companies, c.id ≠ a.freshId 0) →
      s.registerCompany a new =
          .ok (new.row a, { s with companies := s.companies ++ [new.row a] }) ∧
        ∀ (later : List Activity) text, Text.normalize text = Text.normalize new.email →
          ∃ found, (s.afterActivities (.operation (.registerCompany new) a :: later)).companyByEmail? text =
            some found ∧ (new.row a).StaysAs found
  /-- The tables refuse a registration for an identifier that is in use, and never for its address. -/
  refused : ∀ text, s.registerCompany a new = .error (.database text) →
    (∃ c ∈ s.companies, c.id = a.freshId 0) ∧ ∀ c ∈ s.companies, c.email ≠ Text.normalize new.email

theorem NewCompany.validate_eq_error {e : Error} (hInvalid : new.validate = .error e) :
    ∃ fault, e = .invalidInput fault := by
  unfold NewCompany.validate at hInvalid
  dsimp only at hInvalid
  split at hInvalid
  · cases hInvalid
    exact ⟨_, rfl⟩
  · split at hInvalid
    · cases hInvalid
      exact ⟨_, rfl⟩
    · cases hInvalid

theorem Store.afterActivity_registerCompany :
    s.afterActivity (.operation (.registerCompany new) a) =
      s.orLeft ((s.registerCompany a new).map (·.2)) := rfl

theorem Store.afterActivity_of_refused {e : Error} (hRefused : s.registerCompany a new = .error e) :
    s.afterActivity (.operation (.registerCompany new) a) = s := by
  rw [afterActivity_registerCompany, hRefused]
  rfl

/-- A company that was registered is found from then on. -/
theorem Store.companyByEmail?_of_registerCompany {result : Company × Store} {text : String}
    (hAddressed : s.WellAddressed) (hRegister : s.registerCompany a new = .ok result)
    (hForm : Text.normalize text = Text.normalize new.email) (later : List Activity) :
    ∃ found, (s.afterActivities (.operation (.registerCompany new) a :: later)).companyByEmail? text =
      some found ∧ result.1.StaysAs found := by
  obtain ⟨hEmail, -, -, hStore⟩ := registerCompany_registers hRegister
  have hNext : s.afterActivity (.operation (.registerCompany new) a) = result.2 := by
    rw [afterActivity_registerCompany, hRegister]
    rfl
  have hMem : result.1 ∈ result.2.companies := by
    rw [hStore]
    exact List.mem_append_right _ (List.mem_singleton_self _)
  rw [afterActivities_cons, hNext]
  exact companyByEmail?_afterActivities (CompaniesKept.registerCompany hAddressed hRegister).addressed hMem
    (hForm.trans hEmail.symm) later

theorem Store.registersByAddress (hAddressed : s.WellAddressed) (a : Ambient) (new : NewCompany) :
    s.RegistersByAddress a new where
  invalid := fun e hInvalid =>
    have hRefused := registerCompany_of_invalid hInvalid
    ⟨hRefused, afterActivity_of_refused hRefused⟩
  known := fun hValid hKnown =>
    have hRefused := registerCompany_of_known hValid hKnown
    ⟨hRefused, afterActivity_of_refused hRefused⟩
  unknown := fun hValid hUnknown hFresh =>
    have hRegister := registerCompany_of_unknown hValid hUnknown hFresh
    ⟨hRegister, fun later _ hForm => companyByEmail?_of_registerCompany hAddressed hRegister hForm later⟩
  refused := by
    intro text hRefused
    cases hValid : new.validate with
    | error e =>
        obtain ⟨fault, rfl⟩ := NewCompany.validate_eq_error hValid
        rw [registerCompany_of_invalid hValid] at hRefused
        cases hRefused
    | ok u =>
        have hUnknown : ∀ c ∈ s.companies, c.email ≠ Text.normalize new.email := by
          intro c hMem hEmail
          rw [registerCompany_of_known hValid ⟨c, hMem, hEmail⟩] at hRefused
          cases hRefused
        refine ⟨?_, hUnknown⟩
        -- under a new identifier the registration would have gone through
        by_contra hFresh
        rw [registerCompany_of_unknown hValid hUnknown (by simpa using hFresh)] at hRefused
        cases hRefused

/-- Companies are known by their addresses, whatever the spelling. Whatever callers have done on an empty
store: no two companies share an identifier or an address, addresses are normal forms, and names are
trimmed and of 2 to 255 characters. What is then registered is refused if it fails the validation or if
any form of its address is known, and changes nothing; otherwise one active company is added, and
whatever callers do next, every form of its address finds it. -/
theorem companies_known_by_address (activities : List Activity) :
    (Store.afterActivities {} activities).WellAddressed ∧
      ∀ a new, (Store.afterActivities {} activities).RegistersByAddress a new := by
  have hAddressed := (companiesKept_activities .empty activities).addressed
  exact ⟨hAddressed, fun a new => Store.registersByAddress hAddressed a new⟩

namespace Sample

/-- A company that registers under an address in mixed letters. -/
def acme : NewCompany :=
  ⟨" Acme ", "Office@acme.example ", none, none⟩

/-- Another one that has the same address. -/
def acmeAgain : NewCompany :=
  ⟨"Acme", " OFFICE@ACME.example", none, none⟩

/-- One that has an address of its own, in which a word ends in a sigma. -/
def odos : NewCompany :=
  ⟨"Odos", "ΟΔΟΣ@beta.example", none, none⟩

/-- What has happened so far. -/
def registration : List Activity :=
  [.operation (.registerCompany acme) (surroundings 1)]

end Sample

/-- The known address is refused in capitals; a new one is found in small letters once its company is
suspended. -/
theorem companies_known_by_address_of_spellings :
    Store.registerCompany (Store.afterActivities {} Sample.registration) (Sample.surroundings 2)
        Sample.acmeAgain = .error (.companyExists "office@acme.example") ∧
      ∃ found,
        (Store.afterActivities (Store.afterActivities {} Sample.registration)
          [.operation (.registerCompany Sample.odos) (Sample.surroundings 2),
            .operation (.setCompanyStatus (.ofNat 2000) .suspended) (Sample.surroundings 3)]).companyByEmail?
              " οδος@BETA.example" = some found ∧
          found.id = .ofNat 2000 := by
  obtain ⟨⟨⟩, hAgain⟩ : ∃ u, Sample.acmeAgain.validate = .ok u := exists_ok_of_isSome (by decide +kernel)
  obtain ⟨⟨⟩, hOdos⟩ : ∃ u, Sample.odos.validate = .ok u := exists_ok_of_isSome (by decide +kernel)
  have hNormal : Text.normalize Sample.acmeAgain.email = "office@acme.example" := by
    decide +kernel
  have hForm : Text.normalize " οδος@BETA.example" = Text.normalize Sample.odos.email := by
    decide +kernel
  have hKnown : ∃ c ∈ (Store.afterActivities {} Sample.registration).companies,
      c.email = Text.normalize Sample.acmeAgain.email := by
    decide +kernel
  have hUnknown : ∀ c ∈ (Store.afterActivities {} Sample.registration).companies,
      c.email ≠ Text.normalize Sample.odos.email := by
    decide +kernel
  have hFresh : ∀ c ∈ (Store.afterActivities {} Sample.registration).companies,
      c.id ≠ (Sample.surroundings 2).freshId 0 := by
    decide +kernel
  obtain ⟨-, hRegisters⟩ := companies_known_by_address Sample.registration
  obtain ⟨hRefused, -⟩ := (hRegisters (Sample.surroundings 2) Sample.acmeAgain).known hAgain hKnown
  obtain ⟨-, hFinds⟩ := (hRegisters (Sample.surroundings 2) Sample.odos).unknown hOdos hUnknown hFresh
  obtain ⟨found, hFound, hStays⟩ := hFinds _ _ hForm
  rw [hNormal] at hRefused
  exact ⟨hRefused, found, hFound, hStays.id⟩

end CardLedger
