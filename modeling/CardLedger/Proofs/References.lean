import CardLedger.Proofs.Footprint
import CardLedger.Proofs.WellFormed

/-!
# References to companies

Queue rows refer to companies that are there. Together with the keys and the references to cards this is
what makes a new company a stranger to everything that is already in the tables: no queue row waits for
it, and no control lies on a card that it will get.
-/

namespace CardLedger.Store

/-- The tables are well-formed, and queue rows refer to companies that are there. -/
structure Referenced (s : Store) : Prop where
  wellFormed : s.WellFormed
  companyOfQueueRow : ∀ r ∈ s.queue, r.companyId ∈ s.companies.map (·.id)

variable {s next : Store} {a : Ambient} {company : Uuid}

theorem mem_ids_of_isActive (hActive : s.IsActive company) : company ∈ s.companies.map (·.id) := by
  obtain ⟨c, hFound, -⟩ := hActive
  have hId : c.id = company := by
    simpa using List.find?_some hFound
  rw [← hId]
  exact List.mem_map_of_mem (List.mem_of_find?_eq_some hFound)

theorem companyIds_setCompanyStatus {status : CompanyStatus} {result : Company × Store}
    (hSet : s.setCompanyStatus a company status = .ok result) :
    result.2.companies.map (·.id) = s.companies.map (·.id) := by
  obtain ⟨old, -, hId, hChanged⟩ := setCompanyStatus_changes hSet
  rw [setCompanyStatus_eq_ok hSet, List.map_map]
  refine List.map_congr_left fun c _ => ?_
  rw [Function.comp_apply, hChanged]
  split
  · next hSame => exact hId.trans (beq_iff_eq.mp hSame).symm
  · rfl

theorem companyId_markGenerated {now : Instant} {rows : List QueueRow} {r : QueueRow}
    (hMem : r ∈ (s.markGenerated now rows).queue) : ∃ old ∈ s.queue, old.companyId = r.companyId := by
  obtain ⟨old, hOld, rfl⟩ := List.mem_map.mp hMem
  refine ⟨old, hOld, ?_⟩
  split
  · rfl
  · rfl

namespace Referenced

theorem empty : Referenced {} where
  wellFormed := .empty
  companyOfQueueRow := by simp

/-- More companies and no other queue rows. -/
theorem of_companies (hReferenced : s.Referenced) (hWell : next.WellFormed)
    (hQueue : ∀ r ∈ next.queue, ∃ old ∈ s.queue, old.companyId = r.companyId)
    (hCompanies : s.companies.map (·.id) ⊆ next.companies.map (·.id)) : next.Referenced where
  wellFormed := hWell
  companyOfQueueRow := by
    intro r hMem
    obtain ⟨old, hOld, hSame⟩ := hQueue r hMem
    rw [← hSame]
    exact hCompanies (hReferenced.companyOfQueueRow old hOld)

theorem registerCompany {new : NewCompany} {result : Company × Store} (hReferenced : s.Referenced)
    (hRegister : s.registerCompany a new = .ok result) : result.2.Referenced := by
  rw [registerCompany_eq_ok hRegister]
  refine hReferenced.of_companies { hReferenced.wellFormed with } (fun r hMem => ⟨r, hMem, rfl⟩) ?_
  rw [List.map_append]
  exact List.subset_append_left _ _

theorem enqueue {employees : List EmployeeRecord} {result : List QueueRow × Store}
    (hReferenced : s.Referenced) (hEnqueue : s.enqueue a company employees = .ok result) :
    result.2.Referenced where
  wellFormed := hReferenced.wellFormed.enqueue hEnqueue
  companyOfQueueRow := by
    obtain ⟨hActive, hRows, hStore⟩ := enqueue_eq_ok hEnqueue
    rw [hStore]
    intro r hMem
    rcases List.mem_append.mp hMem with hOld | hNew
    · exact hReferenced.companyOfQueueRow r hOld
    · rw [hRows] at hNew
      obtain ⟨⟨employee, index⟩, -, rfl⟩ := List.mem_map.mp hNew
      exact mem_ids_of_isActive hActive

theorem issue {settings : IssuanceSettings} {result : List Card × Store} (hReferenced : s.Referenced)
    (hIssue : s.issue a settings company = .ok result) : result.2.Referenced := by
  have hWell := hReferenced.wellFormed.issue hIssue
  obtain ⟨-, hStore, -⟩ := issue_eq_ok hReferenced.wellFormed.cardsKeyed hIssue
  rw [hStore] at hWell ⊢
  exact hReferenced.of_companies hWell (fun r hMem => companyId_markGenerated hMem) (List.Subset.refl _)

theorem of_apply {operation : Operation} (hReferenced : s.Referenced)
    (hAlone : a.interference.balanceAfterRecord = none) (hApply : operation.apply s a = .ok next) :
    next.Referenced := by
  have hWell := hReferenced.wellFormed.of_apply hApply
  by_cases hOnCard : operation.isOnCard = true
  · have hUsed := cardsUsed_of_apply hOnCard hReferenced.wellFormed.cardsKeyed hAlone hApply
    refine hReferenced.of_companies hWell ?_ (by rw [hUsed.companies]; exact List.Subset.refl _)
    rw [hUsed.queue]
    exact fun r hMem => ⟨r, hMem, rfl⟩
  unfold Operation.apply at hApply
  cases operation with
  | registerCompany new =>
      obtain ⟨result, hRun, rfl⟩ := map_eq_ok_iff.mp hApply
      exact hReferenced.registerCompany hRun
  | setCompanyStatus company status =>
      obtain ⟨result, hRun, rfl⟩ := map_eq_ok_iff.mp hApply
      refine hReferenced.of_companies hWell (fun r hMem => ?_)
        (by rw [companyIds_setCompanyStatus hRun]; exact List.Subset.refl _)
      rw [setCompanyStatus_eq_ok hRun] at hMem
      exact ⟨r, hMem, rfl⟩
  | enqueue company employees =>
      obtain ⟨result, hRun, rfl⟩ := map_eq_ok_iff.mp hApply
      exact hReferenced.enqueue hRun
  | issue settings company =>
      obtain ⟨result, hRun, rfl⟩ := map_eq_ok_iff.mp hApply
      exact hReferenced.issue hRun
  | upsertControl company card control =>
      obtain ⟨result, hRun, rfl⟩ := map_eq_ok_iff.mp hApply
      rw [upsertControl_eq_ok hRun] at hWell ⊢
      exact hReferenced.of_companies hWell (fun r hMem => ⟨r, hMem, rfl⟩) (List.Subset.refl _)
  | deactivateControl company card kind =>
      obtain ⟨result, hRun, rfl⟩ := map_eq_ok_iff.mp hApply
      rw [deactivateControl_eq_ok hRun] at hWell ⊢
      exact hReferenced.of_companies hWell (fun r hMem => ⟨r, hMem, rfl⟩) (List.Subset.refl _)
  | fundCard | setSpendingLimit | setPeriodLimits | blockCard | authorize => exact absurd rfl hOnCard

/-- Every run of the workflow keeps the references. -/
theorem run (hReferenced : s.Referenced) (calls : List Call) : (s.run calls).Referenced :=
  run_preserves (P := Referenced) (fun {_ _ call} hOld hApply => hOld.of_apply call.alone hApply)
    hReferenced calls

end Referenced

end CardLedger.Store
