import CardLedger.Proofs.ControlMap
import CardLedger.Proofs.TimestampOrder
import CardLedger.Proofs.WellFormed

/-!
# The default controls of a new card

Controls that are set one after the other for a card that has none. The rows of the card are, after each
of them, the last control of each type so far: a type that has not occurred yet gets a row at the end, and
one that has is overwritten in its place. As all rows are written at one time, this is the order in which
the controls of the card are told.
-/

namespace CardLedger

/-! ## The last control of each type -/

/-- The last control of a type in a list. -/
def lastOfType? (controls : List ControlValue) (kind : ControlType) : Option ControlValue :=
  (controls.filter fun v => v.type == kind).getLast?

/-- The last control of each type in a list, in the order in which the types first occur. -/
def lastOfEachType (controls : List ControlValue) : List ControlValue :=
  (controls.map (·.type)).eraseDups.filterMap (lastOfType? controls)

theorem eraseDups_concat_of_mem {α : Type} [BEq α] [LawfulBEq α] {items : List α} {item : α}
    (hMem : item ∈ items) : (items ++ [item]).eraseDups = items.eraseDups := by
  rw [List.eraseDups_append, List.cons_removeAll, List.contains_iff_mem.mpr hMem]
  simp

theorem eraseDups_concat_of_not_mem {α : Type} [BEq α] [LawfulBEq α] {items : List α} {item : α}
    (hNew : item ∉ items) : (items ++ [item]).eraseDups = items.eraseDups ++ [item] := by
  rw [List.eraseDups_append, List.cons_removeAll, List.contains_eq_mem, decide_eq_false hNew]
  simp [List.eraseDups_cons]

variable {controls done : List ControlValue} {v w : ControlValue} {kind : ControlType}

theorem lastOfType?_concat_own : lastOfType? (done ++ [v]) v.type = some v := by
  simp [lastOfType?]

theorem lastOfType?_concat_other (hOther : kind ≠ v.type) :
    lastOfType? (done ++ [v]) kind = lastOfType? done kind := by
  simp [lastOfType?, hOther.symm]

theorem type_of_lastOfType? (hLast : lastOfType? controls kind = some v) : v.type = kind := by
  have hMem := List.mem_filter.mp (List.mem_of_getLast? hLast)
  exact beq_iff_eq.mp hMem.2

theorem exists_lastOfType? (hMem : kind ∈ controls.map (·.type)) :
    ∃ v, lastOfType? controls kind = some v := by
  obtain ⟨w, hControl, rfl⟩ := List.mem_map.mp hMem
  have hSome : controls.filter (fun v => v.type == w.type) ≠ [] := by
    intro hNil
    simpa using List.filter_eq_nil_iff.mp hNil w hControl
  exact ⟨_, List.getLast?_eq_some_getLast hSome⟩

theorem types_lastOfEachType :
    (lastOfEachType controls).map (·.type) = (controls.map (·.type)).eraseDups := by
  have hEach : ∀ kind ∈ (controls.map (·.type)).eraseDups,
      (lastOfType? controls kind).map (·.type) = some kind := by
    intro kind hMem
    obtain ⟨v, hLast⟩ := exists_lastOfType? (List.mem_eraseDups.mp hMem)
    rw [hLast, Option.map_some, type_of_lastOfType? hLast]
  unfold lastOfEachType
  rw [List.map_filterMap, List.filterMap_congr hEach, List.filterMap_some]

theorem mem_types_iff :
    kind ∈ controls.map (·.type) ↔ kind ∈ (lastOfEachType controls).map (·.type) := by
  rw [types_lastOfEachType, List.mem_eraseDups]

/-- A control of a new type comes last. -/
theorem lastOfEachType_concat_new (hNew : v.type ∉ done.map (·.type)) :
    lastOfEachType (done ++ [v]) = lastOfEachType done ++ [v] := by
  have hTypes : ((done ++ [v]).map (·.type)).eraseDups = (done.map (·.type)).eraseDups ++ [v.type] := by
    rw [List.map_append]
    exact eraseDups_concat_of_not_mem hNew
  have hOthers : ∀ kind ∈ (done.map (·.type)).eraseDups,
      lastOfType? (done ++ [v]) kind = lastOfType? done kind := by
    intro kind hMem
    refine lastOfType?_concat_other ?_
    rintro rfl
    exact hNew (List.mem_eraseDups.mp hMem)
  unfold lastOfEachType
  rw [hTypes, List.filterMap_append, List.filterMap_congr hOthers]
  simp [lastOfType?_concat_own]

/-- A control of a type that has occurred takes the place of the one before. -/
theorem lastOfEachType_concat_again (hAgain : v.type ∈ done.map (·.type)) :
    lastOfEachType (done ++ [v]) = (lastOfEachType done).map fun w => if w.type = v.type then v else w := by
  have hTypes : ((done ++ [v]).map (·.type)).eraseDups = (done.map (·.type)).eraseDups := by
    rw [List.map_append]
    exact eraseDups_concat_of_mem hAgain
  unfold lastOfEachType
  rw [hTypes, List.map_filterMap]
  refine List.filterMap_congr fun kind hMem => ?_
  obtain ⟨w, hLast⟩ := exists_lastOfType? (List.mem_eraseDups.mp hMem)
  rw [hLast, Option.map_some]
  by_cases hKind : kind = v.type
  · rw [hKind, lastOfType?_concat_own, if_pos ((type_of_lastOfType? hLast).trans hKind)]
  · rw [lastOfType?_concat_other hKind, hLast, if_neg fun hSame => hKind ?_]
    exact (type_of_lastOfType? hLast).symm.trans hSame

theorem nodup_types_lastOfEachType : ((lastOfEachType controls).map (·.type)).Nodup := by
  induction controls using List.reverseRecOn with
  | nil => exact List.nodup_nil
  | append_singleton done v ih =>
      by_cases hAgain : v.type ∈ done.map (·.type)
      · rw [lastOfEachType_concat_again hAgain, List.map_map]
        have hSame : ∀ w ∈ lastOfEachType done,
            ((·.type) ∘ fun w : ControlValue => if w.type = v.type then v else w) w = w.type := by
          intro w _
          by_cases hType : w.type = v.type
          · simp [hType]
          · simp [hType]
        rwa [List.map_congr_left hSame]
      · rw [lastOfEachType_concat_new hAgain]
        refine nodup_map_concat ih fun w hMem hSame => hAgain ?_
        exact mem_types_iff.mpr (hSame ▸ List.mem_map_of_mem hMem)

example :
    lastOfEachType [.merchantName .null, .timeBased ⟨"08:00", "20:00"⟩, .merchantName (.record [])] =
      [.merchantName (.record []), .timeBased ⟨"08:00", "20:00"⟩] := rfl

/-! ## The rows of a card -/

/-- The type and the payload that a control is stored as. -/
def ControlValue.written (v : ControlValue) : String × Value :=
  (v.type.name, v.toPayload)

/-- The type and the payload of a row. -/
def ControlRow.written (r : ControlRow) : String × Value :=
  (r.type, r.payload)

/-- Rows of a card that hold controls in their order, all of them active and written at one time. -/
structure HoldControls (now : Instant) (card : Uuid) (rows : List ControlRow)
    (controls : List ControlValue) : Prop where
  card : ∀ r ∈ rows, r.cardId = card
  active : ∀ r ∈ rows, r.isActive = true
  created : ∀ r ∈ rows, r.createdAt = now
  written : rows.map (·.written) = controls.map (·.written)

namespace HoldControls

variable {now : Instant} {card : Uuid} {rows : List ControlRow} {r old : ControlRow}

theorem nothing : HoldControls now card [] [] where
  card := by simp
  active := by simp
  created := by simp
  written := rfl

theorem types_eq (hHold : HoldControls now card rows controls) :
    rows.map (·.type) = controls.map (·.type.name) := by
  have hFirst := congrArg (List.map Prod.fst) hHold.written
  rwa [List.map_map, List.map_map] at hFirst

/-- The types of the rows are the types of the controls. -/
theorem exists_active_iff (hHold : HoldControls now card rows controls) :
    (∃ r ∈ rows, r.isActiveOf card kind = true) ↔ kind ∈ controls.map (·.type) := by
  have hTypes := hHold.types_eq
  constructor
  · rintro ⟨r, hMem, hOwn⟩
    have hType : r.type ∈ controls.map (·.type.name) := hTypes ▸ List.mem_map_of_mem hMem
    obtain ⟨w, hControl, hName⟩ := List.mem_map.mp hType
    rw [(ControlRow.isActiveOf_iff.mp hOwn).2.1] at hName
    exact List.mem_map.mpr ⟨w, hControl, ControlType.name_injective hName⟩
  · intro hKind
    obtain ⟨w, hControl, rfl⟩ := List.mem_map.mp hKind
    have hName : w.type.name ∈ rows.map (·.type) :=
      hTypes ▸ List.mem_map.mpr ⟨w, hControl, rfl⟩
    obtain ⟨r, hMem, hType⟩ := List.mem_map.mp hName
    exact ⟨r, hMem, ControlRow.isActiveOf_iff.mpr ⟨hHold.card r hMem, hType, hHold.active r hMem⟩⟩

theorem single (hOwn : r.isActiveOf card v.type = true) (hPayload : r.payload = v.toPayload)
    (hCreated : r.createdAt = now) : HoldControls now card [r] [v] := by
  obtain ⟨hCard, hType, hActive⟩ := ControlRow.isActiveOf_iff.mp hOwn
  exact
    { card := by simpa using hCard
      active := by simpa using hActive
      created := by simpa using hCreated
      written := by simp [ControlRow.written, ControlValue.written, hType, hPayload] }

theorem append {more : List ControlRow} {others : List ControlValue}
    (hHold : HoldControls now card rows controls) (hMore : HoldControls now card more others) :
    HoldControls now card (rows ++ more) (controls ++ others) where
  card := List.forall_mem_append.mpr ⟨hHold.card, hMore.card⟩
  active := List.forall_mem_append.mpr ⟨hHold.active, hMore.active⟩
  created := List.forall_mem_append.mpr ⟨hHold.created, hMore.created⟩
  written := by rw [List.map_append, List.map_append, hHold.written, hMore.written]

/-- What holds of all rows and of the row that takes the place of one holds of all after that. -/
theorem forall_replace {P : ControlRow → Prop} {row : ControlRow} (hRows : ∀ r ∈ rows, P r) (hRow : P row) :
    ∀ r ∈ rows.map fun r => if r.id == old.id then row else r, P r := by
  intro later hLater
  obtain ⟨r, hMem, rfl⟩ := List.mem_map.mp hLater
  split
  · exact hRow
  · exact hRows r hMem

/-- A row that takes the place of the one of its type replaces the control of this type. -/
theorem replace {row : ControlRow} (hHold : HoldControls now card rows controls)
    (hKeyed : (rows.map (·.id)).Nodup) (hTypes : (controls.map (·.type)).Nodup) (hMem : old ∈ rows)
    (hType : old.type = v.type.name) (hRow : HoldControls now card [row] [v]) :
    HoldControls now card (rows.map fun r => if r.id == old.id then row else r)
      (controls.map fun w => if w.type = v.type then v else w) where
  card := forall_replace hHold.card (hRow.card row (List.mem_singleton_self row))
  active := forall_replace hHold.active (hRow.active row (List.mem_singleton_self row))
  created := forall_replace hHold.created (hRow.created row (List.mem_singleton_self row))
  written := by
    have hNames : (rows.map (·.type)).Nodup := by
      have hMapped : ((controls.map (·.type)).map ControlType.name).Nodup :=
        hTypes.map ControlType.name_injective
      rw [List.map_map] at hMapped
      rwa [hHold.types_eq]
    have hWritten : row.written = v.written := (List.cons.inj hRow.written).1
    -- under both keys the row of the identifier is the row of the type
    have hRows : ∀ r ∈ rows, (if r.id == old.id then row else r).written =
        if r.written.1 = v.type.name then v.written else r.written := by
      intro r hMemRow
      by_cases hId : r.id = old.id
      · have hName : r.written.1 = v.type.name := by
          rw [List.inj_on_of_nodup_map hKeyed hMemRow hMem hId]
          exact hType
        rw [if_pos (beq_iff_eq.mpr hId), if_pos hName, hWritten]
      · have hName : r.written.1 ≠ v.type.name := fun hName =>
          hId (congrArg _ (List.inj_on_of_nodup_map hNames hMemRow hMem (hName.trans hType.symm)))
        rw [if_neg (by simpa using hId), if_neg hName]
    have hControls : ∀ w : ControlValue, (if w.type = v.type then v else w).written =
        if w.written.1 = v.type.name then v.written else w.written := by
      intro w
      by_cases hKind : w.type = v.type
      · have hName : w.written.1 = v.type.name := congrArg ControlType.name hKind
        rw [if_pos hKind, if_pos hName]
      · have hName : w.written.1 ≠ v.type.name := fun hName => hKind (ControlType.name_injective hName)
        rw [if_neg hKind, if_neg hName]
    calc (rows.map fun r => if r.id == old.id then row else r).map (·.written)
      _ = (rows.map (·.written)).map fun column =>
            if column.1 = v.type.name then v.written else column := by
          rw [List.map_map, List.map_map]
          exact List.map_congr_left hRows
      _ = (controls.map (·.written)).map fun column =>
            if column.1 = v.type.name then v.written else column := by rw [hHold.written]
      _ = (controls.map fun w => if w.type = v.type then v else w).map (·.written) := by
          rw [List.map_map, List.map_map]
          exact List.map_congr_left fun w _ => (hControls w).symm

end HoldControls

namespace Store

variable {s next : Store} {a : Ambient} {now : Instant} {fresh card : Uuid} {row : ControlRow}
  {rows others own : List ControlRow}

/-- Setting a control of a card whose rows stand behind those of other cards. -/
theorem putControl_holds (hWell : s.WellFormed) (hSplit : s.controls = others ++ own)
    (hOthers : ∀ r ∈ others, r.cardId ≠ card) (hOwn : HoldControls a.now card own (lastOfEachType done))
    (hKeeps : a.KeepsPayload v) (hPut : s.putControl a fresh card v = .ok (row, next)) :
    ∃ later, next.controls = others ++ later ∧
      HoldControls a.now card later (lastOfEachType (done ++ [v])) := by
  have hKeyed := hWell.controlsKeyed
  rw [hSplit, List.map_append, List.nodup_append] at hKeyed
  obtain ⟨-, hOwnKeyed, hApart⟩ := hKeyed
  obtain ⟨payload, hColumn, hCases⟩ := putControl_cases hPut
  obtain rfl : payload = v.toPayload := Option.some.inj (hColumn.symm.trans hKeeps)
  rcases hCases with ⟨old, hActive, rfl, rfl⟩ | ⟨hNone, rfl, -, -, rfl⟩
  · obtain ⟨hMem, hOf⟩ := mem_of_activeControl? hActive
    obtain ⟨hCard, hType, -⟩ := ControlRow.isActiveOf_iff.mp hOf
    have hOld : old ∈ own := by
      rw [hSplit] at hMem
      exact (List.mem_append.mp hMem).resolve_left fun hOther => hOthers old hOther hCard
    have hAgain : v.type ∈ done.map (·.type) :=
      mem_types_iff.mpr (hOwn.exists_active_iff.mp ⟨old, hOld, hOf⟩)
    have hFront : others.map (fun r =>
        if r.id == old.id then { old with payload := v.toPayload, updatedAt := a.now } else r) = others := by
      refine (List.map_congr_left fun r hOther => if_neg ?_).trans (List.map_id' others)
      intro hId
      exact hApart _ (List.mem_map_of_mem hOther) _ (List.mem_map_of_mem hOld) (beq_iff_eq.mp hId)
    have hRow : HoldControls a.now card [{ old with payload := v.toPayload, updatedAt := a.now }] [v] :=
      .single hOf rfl (hOwn.created old hOld)
    refine ⟨_, ?_, lastOfEachType_concat_again hAgain ▸
      hOwn.replace hOwnKeyed nodup_types_lastOfEachType hOld hType hRow⟩
    dsimp only
    rw [hSplit, List.map_append, hFront]
  · have hNew : v.type ∉ done.map (·.type) := by
      intro hAgain
      obtain ⟨r, hRow, hOf⟩ := hOwn.exists_active_iff.mpr (mem_types_iff.mp hAgain)
      refine List.find?_eq_none.mp hNone r ?_ hOf
      rw [hSplit]
      exact List.mem_append_right others hRow
    refine ⟨_, by rw [hSplit, List.append_assoc], lastOfEachType_concat_new hNew ▸ hOwn.append ?_⟩
    exact .single (ControlRow.isActiveOf_iff.mpr ⟨rfl, rfl, rfl⟩) rfl rfl

/-- Setting controls one after the other leaves the last one of each type. -/
theorem putControls_hold {first : Nat} (hWell : s.WellFormed) (hSplit : s.controls = others ++ own)
    (hOthers : ∀ r ∈ others, r.cardId ≠ card) (hOwn : HoldControls a.now card own (lastOfEachType done))
    (hKeeps : ∀ v ∈ controls, a.KeepsPayload v)
    (hPut : s.putControls a card first controls = .ok next) :
    ∃ later, next.controls = others ++ later ∧
      HoldControls a.now card later (lastOfEachType (done ++ controls)) := by
  induction controls generalizing s first done own with
  | nil =>
      cases hPut
      exact ⟨own, hSplit, by rwa [List.append_nil]⟩
  | cons v rest ih =>
      obtain ⟨⟨row, put⟩, hFirst, hRest⟩ := bind_eq_ok_iff.mp hPut
      obtain ⟨hControl, hOthersKept⟩ := List.forall_mem_cons.mp hKeeps
      obtain ⟨later, hPutSplit, hLater⟩ := putControl_holds hWell hSplit hOthers hOwn hControl hFirst
      rw [List.append_cons]
      exact ih (hWell.putControl hFirst) hPutSplit hLater hOthersKept hRest

/-- A card without controls gets rows for the last control of each type. -/
theorem putControls_of_unused {first : Nat} (hWell : s.WellFormed)
    (hNone : ∀ r ∈ s.controls, r.cardId ≠ card) (hKeeps : ∀ v ∈ controls, a.KeepsPayload v)
    (hPut : s.putControls a card first controls = .ok next) :
    ∃ own, next.controls = s.controls ++ own ∧ HoldControls a.now card own (lastOfEachType controls) := by
  have hNothing : HoldControls a.now card [] (lastOfEachType []) := .nothing
  exact putControls_hold hWell (List.append_nil _).symm hNone hNothing hKeeps hPut

/-- The controls told of a card are those that its rows hold, in the same order. -/
theorem activeControlValues_of_hold
    (hRows : HoldControls now card (s.controls.filter fun r => r.cardId == card) controls) :
    s.activeControlValues card = .ok controls := by
  have hActive : s.activeControls card = s.controls.filter fun r => r.cardId == card := by
    have hFilter : (s.controls.filter fun r => r.cardId == card && r.isActive) =
        s.controls.filter fun r => r.cardId == card := by
      refine List.filter_congr fun r hMem => ?_
      by_cases hCard : r.cardId = card
      · simp [hRows.active r (List.mem_filter.mpr ⟨hMem, beq_iff_eq.mpr hCard⟩)]
      · simp [hCard]
    unfold activeControls
    rw [hFilter]
    exact oldestFirst_of_same_time hRows.created
  calc s.activeControlValues card
    _ = ((s.controls.filter fun r => r.cardId == card).map (·.written)).mapM fun column =>
          liftFault .controlConfig (ControlValue.ofStored column.1 column.2) := by
        rw [List.mapM_map, ← hActive]
        rfl
    _ = controls.mapM fun v => liftFault .controlConfig (ControlValue.ofStored v.type.name v.toPayload) := by
        rw [hRows.written, List.mapM_map]
        rfl
    _ = controls.mapM fun v => (pure v : Except Error ControlValue) := by
        simp only [ControlValue.ofStored_toPayload, liftFault_ok, pure_eq_ok]
    _ = .ok controls := by
        rw [List.mapM_pure]
        simp

end Store

end CardLedger
