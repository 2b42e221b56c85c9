import CardLedger.Proofs.Workflow

/-!
# Fresh identifiers

Identifiers are drawn at random and taken to be new. Here this is said of a store and of a run: what a
call draws is distinct, and not in use when the call is made. Only so many identifiers count as an
operation can draw.
-/

namespace CardLedger

/-- The identifiers in use: those of all rows, and those that queue rows hold ready for cards. -/
def Store.identifiers (s : Store) : List Uuid :=
  s.companies.map (·.id) ++ s.cards.map (·.id) ++ s.queue.map (·.id) ++ s.queue.map (·.cardId) ++
    s.transactions.map (·.id) ++ s.controls.map (·.id)

/-- The first identifiers drawn are distinct, and none of them is in use. -/
structure Ambient.FreshFor (a : Ambient) (s : Store) (count : Nat) : Prop where
  distinct : ∀ i < count, ∀ j < count, a.freshId i = a.freshId j → i = j
  unused : ∀ i < count, a.freshId i ∉ s.identifiers

instance (a : Ambient) (s : Store) (count : Nat) : Decidable (a.FreshFor s count) :=
  decidable_of_iff
    ((∀ i < count, ∀ j < count, a.freshId i = a.freshId j → i = j) ∧
      ∀ i < count, a.freshId i ∉ s.identifiers)
    ⟨fun h => ⟨h.1, h.2⟩, fun h => ⟨h.distinct, h.unused⟩⟩

namespace Ambient.FreshFor

variable {a : Ambient} {s : Store} {count i : Nat}

theorem card (hFresh : a.FreshFor s count) (hDrawn : i < count) : ∀ c ∈ s.cards, c.id ≠ a.freshId i := by
  intro c hMem hId
  refine hFresh.unused i hDrawn ?_
  rw [← hId]
  simp only [Store.identifiers, List.mem_append]
  exact .inl (.inl (.inl (.inl (.inr (List.mem_map_of_mem hMem)))))

theorem queueRow (hFresh : a.FreshFor s count) (hDrawn : i < count) :
    ∀ r ∈ s.queue, r.id ≠ a.freshId i := by
  intro r hMem hId
  refine hFresh.unused i hDrawn ?_
  rw [← hId]
  simp only [Store.identifiers, List.mem_append]
  exact .inl (.inl (.inl (.inr (List.mem_map_of_mem hMem))))

theorem queueCard (hFresh : a.FreshFor s count) (hDrawn : i < count) :
    ∀ r ∈ s.queue, r.cardId ≠ a.freshId i := by
  intro r hMem hId
  refine hFresh.unused i hDrawn ?_
  rw [← hId]
  simp only [Store.identifiers, List.mem_append]
  exact .inl (.inl (.inr (List.mem_map_of_mem hMem)))

theorem transaction (hFresh : a.FreshFor s count) (hDrawn : i < count) :
    ∀ t ∈ s.transactions, t.id ≠ a.freshId i := by
  intro t hMem hId
  refine hFresh.unused i hDrawn ?_
  rw [← hId]
  simp only [Store.identifiers, List.mem_append]
  exact .inl (.inr (List.mem_map_of_mem hMem))

theorem control (hFresh : a.FreshFor s count) (hDrawn : i < count) :
    ∀ r ∈ s.controls, r.id ≠ a.freshId i := by
  intro r hMem hId
  refine hFresh.unused i hDrawn ?_
  rw [← hId]
  simp only [Store.identifiers, List.mem_append]
  exact .inr (List.mem_map_of_mem hMem)

end Ambient.FreshFor

/-- How many identifiers an operation can draw. -/
def Operation.draws (s : Store) : Operation → Nat
  | registerCompany .. | fundCard .. | upsertControl .. | authorize .. => 1
  | enqueue _ employees => 2 * employees.length
  | issue settings company => settings.defaultControls.length * (s.pending company).length
  | setCompanyStatus .. | setSpendingLimit .. | setPeriodLimits .. | blockCard ..
  | deactivateControl .. => 0

/-- Every call of a run draws identifiers that are not in use. -/
def FreshRun (s : Store) : List Call → Prop
  | [] => True
  | call :: rest =>
      call.ambient.FreshFor s (call.operation.draws s) ∧ FreshRun (s.after call) rest

theorem freshRun_append {s : Store} {calls more : List Call} :
    FreshRun s (calls ++ more) ↔ FreshRun s calls ∧ FreshRun (s.run calls) more := by
  induction calls generalizing s with
  | nil => exact (iff_of_eq (true_and _)).symm
  | cons call rest ih => exact (and_congr_right fun _ => ih).trans and_assoc.symm

instance decidableFreshRun : (s : Store) → (calls : List Call) → Decidable (FreshRun s calls)
  | _, [] => inferInstanceAs (Decidable True)
  | s, call :: rest =>
      have := decidableFreshRun (s.after call) rest
      inferInstanceAs (Decidable (_ ∧ FreshRun (s.after call) rest))

end CardLedger
