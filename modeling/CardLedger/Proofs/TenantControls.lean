import CardLedger.Proofs.TenantCards
import CardLedger.Proofs.WellFormed

/-!
# Controls in the part of a company

A control is set in the active row of its type, or in a new row under a fresh identifier. Both is done to
the controls of one card, which is the company's. The row is found by its identifier alone, which is safe
because the identifier is a key and the row was looked up among the controls of the card.
-/

namespace CardLedger

variable {s next : Store} {a : Ambient} {company tenant card id : Uuid} {count : Nat}

namespace Store

/-! ## Rows of controls -/

section

variable {change : ControlRow → ControlRow} {r : ControlRow}

theorem view_mapControls (hCard : ∀ r ∈ s.controls, (change r).cardId = r.cardId) :
    { s with controls := s.controls.map change }.view company =
      { s.view company with controls := (s.view company).controls.map change } := by
  have hRows : (s.controls.map change).filter (fun r => s.owns company r.cardId) =
      (s.controls.filter fun r => s.owns company r.cardId).map change := by
    rw [List.filter_map]
    refine congrArg _ (List.filter_congr fun r hr => ?_)
    rw [Function.comp_apply, hCard r hr]
  exact congrArg (fun rows => { s.view company with controls := rows }) hRows

/-- A change of controls that leaves those of a company's cards alone is none to the company. -/
theorem agreeOn_mapControls (hCard : ∀ r ∈ s.controls, (change r).cardId = r.cardId)
    (hAlone : ∀ r ∈ s.controls, s.owns tenant r.cardId = true → change r = r) :
    s.AgreeOn { s with controls := s.controls.map change } tenant := by
  refine ⟨?_, rfl⟩
  have hRows : (s.view tenant).controls.map change = (s.view tenant).controls := by
    refine (List.map_congr_left fun r hr => ?_).trans (List.map_id' _)
    obtain ⟨hMem, hOwned⟩ := List.mem_filter.mp hr
    exact hAlone r hMem hOwned
  rw [view_mapControls hCard, hRows]

theorem view_withControl (hOwned : s.owns company r.cardId = true) :
    { s with controls := s.controls ++ [r] }.view company =
      { s.view company with controls := (s.view company).controls ++ [r] } := by
  have hRows : (s.controls ++ [r]).filter (fun r => s.owns company r.cardId) =
      (s.controls.filter fun r => s.owns company r.cardId) ++ [r] := by
    rw [List.filter_append, List.filter_singleton, hOwned]
    rfl
  exact congrArg (fun rows => { s.view company with controls := rows }) hRows

theorem agreeOn_withControl (hOwned : s.owns tenant r.cardId = false) :
    s.AgreeOn { s with controls := s.controls ++ [r] } tenant := by
  refine ⟨?_, rfl⟩
  have hRows : (s.controls ++ [r]).filter (fun r => s.owns tenant r.cardId) =
      s.controls.filter fun r => s.owns tenant r.cardId := by
    rw [List.filter_append, List.filter_singleton, hOwned]
    exact List.append_nil _
  exact (congrArg (fun rows => { s.view tenant with controls := rows }) hRows).symm

end

/-! ## Setting a control -/

/-- The identifiers drawn are free for controls of a company: no other company has one of them. -/
def ControlsFree (s : Store) (company : Uuid) (a : Ambient) (count : Nat) : Prop :=
  ∀ r ∈ s.controls, ∀ i < count, r.id = a.freshId i → s.owns company r.cardId = true

section

variable {v : ControlValue} {row : ControlRow}

theorem insertControl_view (hWell : s.WellFormed) (hOwned : s.owns company row.cardId = true)
    (hFree : ∀ r ∈ s.controls, r.id = row.id → s.owns company r.cardId = true) :
    (s.view company).insertControl row = (s.insertControl row).map (·.view company) := by
  have hUsed : ((s.view company).controls.any fun old => old.id == row.id) =
      s.controls.any fun old => old.id == row.id :=
    any_filter_of_imp fun r hr hId => hFree r hr (beq_iff_eq.mp hId)
  obtain ⟨c, hCard, hViewCard⟩ := card?_of_owns hWell.cardsKeyed hOwned
  unfold insertControl
  rw [hUsed, hCard, hViewCard]
  split
  · rfl
  · rw [if_neg (by simp), if_neg (by simp)]
    exact congrArg Except.ok (view_withControl hOwned).symm

theorem putControl_view (hWell : s.WellFormed) (hOwned : s.owns company card = true)
    (hFree : ∀ r ∈ s.controls, r.id = id → s.owns company r.cardId = true) :
    (s.view company).putControl a id card v = seenBy company (s.putControl a id card v) := by
  unfold putControl
  refine seenBy_check fun _ _ => seenBy_check fun payload _ => ?_
  rw [activeControl?_view hOwned]
  cases hActive : s.activeControl? card v.type with
  | some old =>
      -- the row is overwritten wherever its identifier stands, which is in this one place
      obtain ⟨hOld, -⟩ := mem_of_activeControl? hActive
      refine congrArg Except.ok (congrArg (Prod.mk _) (view_mapControls fun r hr => ?_).symm)
      split
      · next hId =>
          rw [List.inj_on_of_nodup_map hWell.controlsKeyed hr hOld (beq_iff_eq.mp hId)]
      · rfl
  | none =>
      dsimp only
      rw [insertControl_view hWell hOwned hFree]
      exact map_bind fun inserted _ => rfl

end

/-! ## Controls that are changed -/

/-- What is done to the controls of a company's card is nothing to other companies. -/
theorem agreeOn_of_controlChange (hWell : s.WellFormed) (hOwned : s.owns company card = true)
    (hOther : tenant ≠ company) (hChange : s.ControlChange card next) : s.AgreeOn next tenant := by
  have hNot : s.owns tenant card = false := owns_other hWell.cardsKeyed hOwned hOther
  cases hChange with
  | changed change hKept hAlone hStore =>
      subst hStore
      refine agreeOn_mapControls (fun r hr => (hKept r hr).2) fun r hr hHas => hAlone r hr ?_
      rintro rfl
      rw [hNot] at hHas
      cases hHas
  | added row hCard hFound hNew hStore =>
      subst hStore
      exact agreeOn_withControl (hCard ▸ hNot)

theorem effect_of_controlChange (hWell : s.WellFormed) (hOwned : s.owns company card = true)
    (hChange : s.ControlChange card next) : s.TenantEffect next company [] := by
  refine .of_transactions ?_ fun _ hOther => agreeOn_of_controlChange hWell hOwned hOther hChange
  cases hChange with
  | changed change hKept hAlone hStore => rw [hStore]
  | added row hCard hFound hNew hStore => rw [hStore]

theorem owns_of_controlChange (hChange : s.ControlChange card next) :
    next.owns company id = s.owns company id := by
  cases hChange with
  | changed change hKept hAlone hStore => exact owns_congr (by rw [hStore])
  | added row hCard hFound hNew hStore => exact owns_congr (by rw [hStore])

theorem ControlsFree.of_controlChange (hFree : s.ControlsFree company a count)
    (hOwned : s.owns company card = true) (hChange : s.ControlChange card next) :
    next.ControlsFree company a count := by
  intro r hr i hDrawn hId
  rw [owns_of_controlChange hChange]
  cases hChange with
  | changed change hKept hAlone hStore =>
      subst hStore
      obtain ⟨old, hOld, rfl⟩ := List.mem_map.mp hr
      obtain ⟨hSameId, hSameCard⟩ := hKept old hOld
      rw [hSameCard]
      exact hFree old hOld i hDrawn (hSameId.symm.trans hId)
  | added row hCard hFound hNew hStore =>
      subst hStore
      rcases List.mem_append.mp hr with hOld | hLast
      · exact hFree r hOld i hDrawn hId
      · rw [List.mem_singleton.mp hLast, hCard]
        exact hOwned

/-! ## The calls of a company -/

theorem upsertControl_view {v : ControlValue} (hWell : s.WellFormed)
    (hFree : s.ControlsFree company a 1) :
    (s.view company).upsertControl a company card v =
      seenBy company (s.upsertControl a company card v) := by
  refine seenBy_check fun _ _ => seenBy_getCard fun c hCard => ?_
  exact putControl_view hWell (owns_of_cardOf? hCard) fun r hr hId => hFree r hr 0 Nat.one_pos hId

theorem effect_of_upsertControl {v : ControlValue} {result : ControlRow × Store}
    (hWell : s.WellFormed) (hUpsert : s.upsertControl a company card v = .ok result) :
    s.TenantEffect result.2 company [] := by
  obtain ⟨_, -, hRest⟩ := bind_eq_ok_iff.mp hUpsert
  obtain ⟨c, hGet, hPut⟩ := bind_eq_ok_iff.mp hRest
  exact effect_of_controlChange hWell (owns_of_cardOf? (getCard_eq_ok_iff.mp hGet))
    (hWell.controlChange_of_putControl hPut)

theorem deactivateControl_view {kind : ControlType} :
    (s.view company).deactivateControl a company card kind =
      seenBy company (s.deactivateControl a company card kind) := by
  refine seenBy_getCard fun c hCard => ?_
  have hAny : ((s.view company).controls.any fun r => r.isActiveOf card kind) =
      s.controls.any fun r => r.isActiveOf card kind := by
    refine any_filter_of_imp fun r _ hOf => ?_
    simp only [ControlRow.isActiveOf, Bool.and_eq_true, beq_iff_eq] at hOf
    rw [hOf.1.1]
    exact owns_of_cardOf? hCard
  rw [pure_eq_ok, pure_eq_ok, seenBy_ok, hAny]
  refine congrArg Except.ok (congrArg (Prod.mk _) (view_mapControls fun r _ => ?_).symm)
  split
  · rfl
  · rfl

theorem effect_of_deactivateControl {kind : ControlType} {result : Bool × Store}
    (hWell : s.WellFormed) (hDeactivate : s.deactivateControl a company card kind = .ok result) :
    s.TenantEffect result.2 company [] := by
  obtain ⟨c, hGet, -⟩ := bind_eq_ok_iff.mp hDeactivate
  exact effect_of_controlChange hWell (owns_of_cardOf? (getCard_eq_ok_iff.mp hGet))
    (controlChange_of_deactivateControl hDeactivate)

end Store

end CardLedger
