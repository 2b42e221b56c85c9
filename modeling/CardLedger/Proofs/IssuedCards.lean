import CardLedger.Proofs.CardNumber
import CardLedger.Proofs.Footprint
import CardLedger.Proofs.Freshness
import CardLedger.Proofs.Reconciliation

/-!
# Cards and the queue

A card comes from a row of the issuance queue, and from one row only; a row is turned into a card once.
The invariant speaks of the faces of cards, which no later operation changes, and of the queue, which
two operations write: employees are queued under fresh identifiers, and the pending rows of a company
become its new cards all at once.
-/

namespace CardLedger

/-! ## What a card and its row have in common -/

/-- A card face is the one of a queue row. -/
structure CardFace.IsOf (f : CardFace) (r : QueueRow) : Prop where
  id : f.id = r.cardId
  company : f.companyId = r.companyId
  employee : f.employeeId = r.employeeId.toText
  email : f.employeeEmail = r.employeeEmail
  holder : f.holder = "Employee - " ++ r.employeeEmail

/-- A card face bears a card number and its last four digits. -/
structure CardFace.IsNumbered (f : CardFace) : Prop where
  number : Luhn.IsCardNumber f.number
  lastFour : f.lastFour = String.ofList (f.number.toList.drop 12)

/-- What becomes of a queue row: it stays the row that it is, and once generated nothing changes. -/
structure QueueRow.Kept (r later : QueueRow) : Prop where
  id : later.id = r.id
  company : later.companyId = r.companyId
  card : later.cardId = r.cardId
  employee : later.employeeId = r.employeeId
  email : later.employeeEmail = r.employeeEmail
  generated : r.status = .generated → later = r

namespace QueueRow

variable {r later final : QueueRow} {now : Instant} {rows : List QueueRow}

theorem Kept.refl (r : QueueRow) : r.Kept r :=
  ⟨rfl, rfl, rfl, rfl, rfl, fun _ => rfl⟩

theorem Kept.trans (hFirst : r.Kept later) (hSecond : later.Kept final) : r.Kept final where
  id := hSecond.id.trans hFirst.id
  company := hSecond.company.trans hFirst.company
  card := hSecond.card.trans hFirst.card
  employee := hSecond.employee.trans hFirst.employee
  email := hSecond.email.trans hFirst.email
  generated := by
    intro hGenerated
    obtain rfl := hFirst.generated hGenerated
    exact hSecond.generated hGenerated

/-- A row once queue rows have been marked as generated. -/
def marked (now : Instant) (rows : List QueueRow) (r : QueueRow) : QueueRow :=
  if rows.any fun row => row.id == r.id then { r with status := .generated, updatedAt := now } else r

theorem marked_of_mem (hMem : ∃ row ∈ rows, row.id = r.id) :
    r.marked now rows = { r with status := .generated, updatedAt := now } := by
  unfold marked
  rw [if_pos (by simpa using hMem)]

theorem marked_of_not_mem (hOther : ∀ row ∈ rows, row.id ≠ r.id) : r.marked now rows = r := by
  unfold marked
  rw [if_neg (by simpa using hOther)]

@[simp]
theorem marked_id : (r.marked now rows).id = r.id := by
  unfold marked
  split <;> rfl

@[simp]
theorem marked_cardId : (r.marked now rows).cardId = r.cardId := by
  unfold marked
  split <;> rfl

@[simp]
theorem marked_companyId : (r.marked now rows).companyId = r.companyId := by
  unfold marked
  split <;> rfl

theorem isOf_marked_iff {f : CardFace} : f.IsOf (r.marked now rows) ↔ f.IsOf r := by
  unfold marked
  split
  · exact ⟨fun h => ⟨h.id, h.company, h.employee, h.email, h.holder⟩,
      fun h => ⟨h.id, h.company, h.employee, h.email, h.holder⟩⟩
  · rfl

theorem isOf_face_card (r : QueueRow) (number cvv : String) (now expiry : Instant) :
    (r.card number cvv now expiry).face.IsOf r :=
  ⟨rfl, rfl, rfl, rfl, rfl⟩

theorem isNumbered_face_card (r : QueueRow) (draw : Nat → Nat) (cvv : String) (now expiry : Instant) :
    (r.card (Luhn.cardNumber draw) cvv now expiry).face.IsNumbered :=
  ⟨Luhn.isCardNumber_cardNumber draw, rfl⟩

end QueueRow

/-! ## The invariant -/

/-- The queue and the faces of the cards tell of each other: a pending row has no card yet, a generated
row has its card, and each card has its generated row. -/
structure Issued (queue : List QueueRow) (faces : List CardFace) : Prop where
  rowsKeyed : (queue.map (·.id)).Nodup
  cardIdsKeyed : (queue.map (·.cardId)).Nodup
  facesKeyed : (faces.map (·.id)).Nodup
  pending : ∀ r ∈ queue, r.status = .pending → ∀ f ∈ faces, f.id ≠ r.cardId
  generated : ∀ r ∈ queue, r.status = .generated → ∃ f ∈ faces, f.IsOf r
  issued : ∀ f ∈ faces, ∃ r ∈ queue, r.status = .generated ∧ f.IsOf r
  numbered : ∀ f ∈ faces, f.IsNumbered

namespace Issued

variable {queue rows : List QueueRow} {faces new : List CardFace} {now : Instant} {r row : QueueRow}
  {f g : CardFace}

theorem empty : Issued [] [] where
  rowsKeyed := List.nodup_nil
  cardIdsKeyed := List.nodup_nil
  facesKeyed := List.nodup_nil
  pending := by simp
  generated := by simp
  issued := by simp
  numbered := by simp

theorem row_of_id (hIssued : Issued queue faces) (hMem : r ∈ queue) (hRow : row ∈ queue)
    (hId : r.id = row.id) : r = row :=
  List.inj_on_of_nodup_map hIssued.rowsKeyed hMem hRow hId

theorem row_of_cardId (hIssued : Issued queue faces) (hMem : r ∈ queue) (hRow : row ∈ queue)
    (hCard : r.cardId = row.cardId) : r = row :=
  List.inj_on_of_nodup_map hIssued.cardIdsKeyed hMem hRow hCard

/-- Pending rows are queued under identifiers that are not in use. -/
theorem enqueue (hIssued : Issued queue faces) (hPending : ∀ r ∈ rows, r.status = .pending)
    (hRowsKeyed : (rows.map (·.id)).Nodup) (hCardIdsKeyed : (rows.map (·.cardId)).Nodup)
    (hRowsFresh : ∀ r ∈ rows, ∀ old ∈ queue, old.id ≠ r.id)
    (hCardIdsFresh : ∀ r ∈ rows, (∀ old ∈ queue, old.cardId ≠ r.cardId) ∧
      ∀ f ∈ faces, f.id ≠ r.cardId) : Issued (queue ++ rows) faces where
  rowsKeyed := nodup_map_append hIssued.rowsKeyed hRowsKeyed hRowsFresh
  cardIdsKeyed := nodup_map_append hIssued.cardIdsKeyed hCardIdsKeyed fun r hMem => (hCardIdsFresh r hMem).1
  facesKeyed := hIssued.facesKeyed
  pending := by
    intro r hRow hStatus
    rcases List.mem_append.mp hRow with hOld | hNew
    · exact hIssued.pending r hOld hStatus
    · exact (hCardIdsFresh r hNew).2
  generated := by
    intro r hRow hStatus
    rcases List.mem_append.mp hRow with hOld | hNew
    · exact hIssued.generated r hOld hStatus
    · rw [hPending r hNew] at hStatus
      cases hStatus
  issued := by
    intro f hFace
    obtain ⟨r, hMem, hRow⟩ := hIssued.issued f hFace
    exact ⟨r, List.mem_append_left rows hMem, hRow⟩
  numbered := hIssued.numbered

/-- Pending rows become the faces of new cards, each row the one of its card, and are marked. -/
theorem issue (hIssued : Issued queue faces) (hRows : ∀ r ∈ rows, r ∈ queue ∧ r.status = .pending)
    (hKeyed : ((faces ++ new).map (·.id)).Nodup) (hIds : new.map (·.id) = rows.map (·.cardId))
    (hNew : ∀ f ∈ new, (∃ r ∈ rows, f.IsOf r) ∧ f.IsNumbered) :
    Issued (queue.map (·.marked now rows)) (faces ++ new) where
  rowsKeyed := by
    rw [List.map_map]
    simpa [Function.comp_def] using hIssued.rowsKeyed
  cardIdsKeyed := by
    rw [List.map_map]
    simpa [Function.comp_def] using hIssued.cardIdsKeyed
  facesKeyed := hKeyed
  pending := by
    intro r hRow hStatus f hFace
    obtain ⟨old, hMem, rfl⟩ := List.mem_map.mp hRow
    by_cases hTurn : ∃ row ∈ rows, row.id = old.id
    · rw [QueueRow.marked_of_mem hTurn] at hStatus
      cases hStatus
    · have hOther : ∀ row ∈ rows, row.id ≠ old.id := fun row hIn hId => hTurn ⟨row, hIn, hId⟩
      rw [QueueRow.marked_of_not_mem hOther] at hStatus ⊢
      rcases List.mem_append.mp hFace with hOld | hFresh
      · exact hIssued.pending old hMem hStatus f hOld
      · -- a new card of this identifier would come from this row, which is not among those issued
        intro hId
        obtain ⟨⟨row, hIn, hOf⟩, -⟩ := hNew f hFresh
        have hSame := hIssued.row_of_cardId (hRows row hIn).1 hMem (hOf.id.symm.trans hId)
        exact hOther row hIn (congrArg QueueRow.id hSame)
  generated := by
    intro r hRow hStatus
    obtain ⟨old, hMem, rfl⟩ := List.mem_map.mp hRow
    simp only [QueueRow.isOf_marked_iff]
    -- the card of a row whose turn it is comes with the new ones, that of any other is there already
    by_cases hTurn : ∃ row ∈ rows, row.id = old.id
    · obtain ⟨row, hIn, hId⟩ := hTurn
      obtain rfl := hIssued.row_of_id (hRows row hIn).1 hMem hId
      have hCard : row.cardId ∈ new.map (·.id) := by
        rw [hIds]
        exact List.mem_map_of_mem hIn
      obtain ⟨f, hFresh, hFaceId⟩ := List.mem_map.mp hCard
      obtain ⟨⟨source, hSource, hOf⟩, -⟩ := hNew f hFresh
      have hSame := hIssued.row_of_cardId (hRows source hSource).1 hMem (hOf.id.symm.trans hFaceId)
      exact ⟨f, List.mem_append_right faces hFresh, hSame ▸ hOf⟩
    · have hOther : ∀ row ∈ rows, row.id ≠ old.id := fun row hIn hId => hTurn ⟨row, hIn, hId⟩
      rw [QueueRow.marked_of_not_mem hOther] at hStatus
      obtain ⟨f, hFace, hOf⟩ := hIssued.generated old hMem hStatus
      exact ⟨f, List.mem_append_left new hFace, hOf⟩
  issued := by
    intro f hFace
    rcases List.mem_append.mp hFace with hOld | hFresh
    · obtain ⟨r, hMem, hStatus, hOf⟩ := hIssued.issued f hOld
      refine ⟨r.marked now rows, List.mem_map_of_mem hMem, ?_, QueueRow.isOf_marked_iff.mpr hOf⟩
      unfold QueueRow.marked
      split
      · rfl
      · exact hStatus
    · obtain ⟨⟨row, hIn, hOf⟩, -⟩ := hNew f hFresh
      refine ⟨row.marked now rows, List.mem_map_of_mem (hRows row hIn).1, ?_,
        QueueRow.isOf_marked_iff.mpr hOf⟩
      rw [QueueRow.marked_of_mem ⟨row, hIn, rfl⟩]
  numbered := by
    intro f hFace
    rcases List.mem_append.mp hFace with hOld | hFresh
    · exact hIssued.numbered f hOld
    · exact (hNew f hFresh).2

/-- A generated row is not among the pending ones that are marked. -/
theorem kept_marked (hIssued : Issued queue faces)
    (hRows : ∀ r ∈ rows, r ∈ queue ∧ r.status = .pending) :
    ∀ r ∈ queue, r.Kept (r.marked now rows) := by
  intro r hMem
  by_cases hTurn : ∃ row ∈ rows, row.id = r.id
  · rw [QueueRow.marked_of_mem hTurn]
    refine ⟨rfl, rfl, rfl, rfl, rfl, fun hGenerated => ?_⟩
    obtain ⟨row, hIn, hId⟩ := hTurn
    obtain rfl := hIssued.row_of_id (hRows row hIn).1 hMem hId
    rw [(hRows row hIn).2] at hGenerated
    cases hGenerated
  · rw [QueueRow.marked_of_not_mem fun row hIn hId => hTurn ⟨row, hIn, hId⟩]
    exact .refl r

end Issued

end CardLedger
