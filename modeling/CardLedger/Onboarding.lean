import CardLedger.Issuance

/-!
# Onboarding

Companies named in the settings are registered and get their cards when the ledger starts. A company
that is registered already is passed over. Registering, queueing and issuing are three operations;
when one fails, those before it stand.
-/

namespace CardLedger

/-- What a seed says of the company. -/
def CompanySeed.newCompany (seed : CompanySeed) : NewCompany :=
  ⟨seed.name, seed.email, seed.address, seed.phone⟩

namespace Store

/-- Onboard one company; the three operations take their surroundings in turn. -/
def onboard (s : Store) (a : Nat → Ambient) (settings : IssuanceSettings) (seed : CompanySeed) :
    Except Error Unit × Store :=
  if (s.companyByEmail? seed.email).isSome then (.ok (), s)
  else
    match s.registerCompany (a 0) seed.newCompany with
    | .error e => (.error e, s)
    | .ok (company, s) =>
        if seed.employees.isEmpty then (.ok (), s)
        else
          match s.enqueue (a 1) company.id seed.employees with
          | .error e => (.error e, s)
          | .ok (_, s) =>
              match s.issue (a 2) settings company.id with
              | .error e => (.error e, s)
              | .ok (_, s) => (.ok (), s)

/-- Onboard companies one after the other up to the first failure. -/
def onboardAll (s : Store) (a : Nat → Ambient) (settings : IssuanceSettings) :
    List CompanySeed → Except Error Unit × Store
  | [] => (.ok (), s)
  | seed :: rest =>
      match s.onboard a settings seed with
      | (.error e, s) => (.error e, s)
      | (.ok (), s) => s.onboardAll (fun i => a (i + 3)) settings rest

end Store

end CardLedger
