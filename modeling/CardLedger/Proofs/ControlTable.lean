import Mathlib.Data.List.Perm.Basic
import Mathlib.Logic.Relation
import CardLedger.Proofs.ControlMap
import CardLedger.Proofs.RowsKept

/-!
# The map that a table of controls shows

The table of controls changes in steps: rows are what they may have become, or one is added where no row
of its card and type is active. Whatever payloads they hold, no row is lost on the way, and of each card and
type at most one is active.

Read through its active rows the table is a map. `ControlMap.ShownBy` says that a table shows a map: the
active rows of each card and type, decoded, are what the map has there. A row that is added, overwritten or
deactivated does to the map what its name says, and to other rows nothing at all.
-/

namespace CardLedger

/-! ## Rows that are overwritten and deactivated -/

namespace ControlRow

variable {rows : List ControlRow} {old : ControlRow} {now : Instant}

/-- A row with a new payload stays the row that it is, as long as it is active. -/
theorem kept_overwritten (hKeyed : (rows.map (·.id)).Nodup) (hOld : old ∈ rows)
    (hActive : old.isActive = true) (payload : Value) :
    ∀ r ∈ rows, r.Kept (if r.id == old.id then { old with payload, updatedAt := now } else r) := by
  intro r hMem
  by_cases hId : r.id = old.id
  · obtain rfl : r = old := List.inj_on_of_nodup_map hKeyed hMem hOld hId
    rw [if_pos (beq_self_eq_true r.id)]
    refine ⟨rfl, rfl, rfl, rfl, fun hInactive => ?_⟩
    rw [hActive] at hInactive
    cases hInactive
  · rw [if_neg (by simpa using hId)]
    exact .refl r

theorem kept_deactivated (card : Uuid) (kind : ControlType) (r : ControlRow) :
    r.Kept (if r.isActiveOf card kind then { r with isActive := false, updatedAt := now } else r) := by
  by_cases hActive : r.isActiveOf card kind = true
  · rw [if_pos hActive]
    refine ⟨rfl, rfl, rfl, rfl, fun hInactive => ?_⟩
    rw [(isActiveOf_iff.mp hActive).2.2] at hInactive
    cases hInactive
  · rw [if_neg hActive]
    exact .refl r

end ControlRow

/-! ## Tables step by step -/

/-- At most one row of a card and a type is active. -/
def SingleActive (rows : List ControlRow) : Prop :=
  ∀ card (type : String),
    (rows.filter fun r => r.cardId == card && r.type == type && r.isActive).length ≤ 1

/-- A step of a table of controls: its rows are what they may have become, or one is added for a card and a
type that no active row has. -/
inductive ControlStep (rows : List ControlRow) : List ControlRow → Prop where
  | changed (change : ControlRow → ControlRow) (hKept : ∀ r ∈ rows, r.Kept (change r)) :
      ControlStep rows (rows.map change)
  | added (row : ControlRow)
      (hNew : ∀ r ∈ rows, r.cardId = row.cardId → r.type = row.type → r.isActive = false) :
      ControlStep rows (rows ++ [row])

/-- A table of controls after some steps. -/
def ControlSteps : List ControlRow → List ControlRow → Prop :=
  Relation.ReflTransGen ControlStep

section

variable {rows next : List ControlRow}

theorem ControlStep.rowsKept (hStep : ControlStep rows next) : RowsKept ControlRow.Kept rows next := by
  cases hStep with
  | changed change hKept => exact .map hKept
  | added row hNew => exact .append ControlRow.Kept.refl _

theorem ControlStep.singleActive (hStep : ControlStep rows next) (hSingle : SingleActive rows) :
    SingleActive next := by
  intro card type
  have hBefore := hSingle card type
  rw [← List.countP_eq_length_filter] at hBefore ⊢
  cases hStep with
  | changed change hKept =>
      rw [List.countP_map]
      refine Nat.le_trans (List.countP_mono_left fun r hMem hActive => ?_) hBefore
      simp only [Function.comp_apply, Bool.and_eq_true, beq_iff_eq] at hActive ⊢
      obtain ⟨⟨hCard, hType⟩, hIsActive⟩ := hActive
      have hRow := hKept r hMem
      exact ⟨⟨hRow.card.symm.trans hCard, hRow.type.symm.trans hType⟩, hRow.isActive hIsActive⟩
  | added row hNew =>
      rw [List.countP_append]
      by_cases hKey : row.cardId = card ∧ row.type = type
      · -- no row that was there before is active for them
        obtain ⟨rfl, rfl⟩ := hKey
        have hNone : rows.countP (fun r =>
            r.cardId == row.cardId && r.type == row.type && r.isActive) = 0 := by
          refine List.countP_eq_zero.mpr fun r hMem hActive => ?_
          simp only [Bool.and_eq_true, beq_iff_eq] at hActive
          obtain ⟨⟨hCard, hType⟩, hIsActive⟩ := hActive
          rw [hNew r hMem hCard hType] at hIsActive
          cases hIsActive
        rw [hNone, Nat.zero_add]
        exact List.countP_le_length
      · have hOther : [row].countP (fun r => r.cardId == card && r.type == type && r.isActive) = 0 := by
          refine List.countP_eq_zero.mpr fun r hMem hActive => ?_
          simp only [Bool.and_eq_true, beq_iff_eq] at hActive
          rw [List.mem_singleton.mp hMem] at hActive
          exact hKey hActive.1
        rw [hOther]
        exact hBefore

theorem ControlSteps.rowsKept (hSteps : ControlSteps rows next) :
    RowsKept ControlRow.Kept rows next := by
  induction hSteps with
  | refl => exact .refl ControlRow.Kept.refl
  | tail _ hStep ih => exact ih.trans ControlRow.Kept.trans hStep.rowsKept

theorem ControlSteps.singleActive (hSteps : ControlSteps rows next) (hSingle : SingleActive rows) :
    SingleActive next := by
  induction hSteps with
  | refl => exact hSingle
  | tail _ hStep ih => exact hStep.singleActive ih

end

/-! ## Tables and maps -/

/-- A table of controls shows a map: its active rows of a card and a type are, decoded, what the map
has there. All rows, the inactive ones as well, are keyed and of some type. -/
structure ControlMap.ShownBy (m : ControlMap) (rows : List ControlRow) : Prop where
  keyed : (rows.map (·.id)).Nodup
  typed : ∀ r ∈ rows, ∃ kind : ControlType, r.type = kind.name
  active : ∀ card kind,
    (rows.filter (·.isActiveOf card kind)).map ControlRow.entry? = (m card kind).toList.map some

namespace ControlMap.ShownBy

variable {m : ControlMap} {rows : List ControlRow} {now : Instant} {card : Uuid} {v : ControlValue}
  {kind : ControlType} {r old : ControlRow} {e : ControlEntry}

theorem empty : ControlMap.empty.ShownBy [] where
  keyed := List.nodup_nil
  typed := by simp
  active := fun _ _ => rfl

theorem eq_of_id (hShown : m.ShownBy rows) (hMem : r ∈ rows) (hOld : old ∈ rows)
    (hId : r.id = old.id) : r = old :=
  List.inj_on_of_nodup_map hShown.keyed hMem hOld hId

theorem eq_none_iff (hShown : m.ShownBy rows) :
    m card kind = none ↔ ∀ r ∈ rows, r.isActiveOf card kind = false := by
  have hActive := hShown.active card kind
  constructor
  · intro hNone r hMem
    rw [hNone, Option.toList_none, List.map_nil, List.map_eq_nil_iff] at hActive
    simpa using List.filter_eq_nil_iff.mp hActive r hMem
  · intro hNone
    have hEmpty : rows.filter (·.isActiveOf card kind) = [] := by
      simpa using hNone
    rw [hEmpty] at hActive
    cases hEntry : m card kind with
    | none => rfl
    | some e =>
        rw [hEntry] at hActive
        cases hActive

/-- Where the map has an entry there is one active row, and it says this entry. -/
theorem exists_row (hShown : m.ShownBy rows) (hEntry : m card kind = some e) :
    ∃ r, rows.filter (·.isActiveOf card kind) = [r] ∧ r.entry? = some e := by
  have hActive := hShown.active card kind
  rw [hEntry] at hActive
  obtain ⟨r, hRow, hSays⟩ := List.map_eq_singleton_iff.mp hActive
  exact ⟨r, hRow, hSays⟩

/-- A row that is active is the only one of its card and type. -/
theorem filter_of_mem (hShown : m.ShownBy rows) (hOld : old ∈ rows)
    (hOwn : old.isActiveOf card kind = true) : rows.filter (·.isActiveOf card kind) = [old] := by
  have hMem : old ∈ rows.filter (·.isActiveOf card kind) := List.mem_filter.mpr ⟨hOld, hOwn⟩
  cases hEntry : m card kind with
  | none =>
      have hNot := hShown.eq_none_iff.mp hEntry old hOld
      rw [hOwn] at hNot
      cases hNot
  | some e =>
      obtain ⟨r, hRow, -⟩ := hShown.exists_row hEntry
      rw [hRow] at hMem
      rw [hRow, List.mem_singleton.mp hMem]

theorem find?_eq (hShown : m.ShownBy rows) :
    (rows.find? (·.isActiveOf card kind)).bind ControlRow.entry? = m card kind := by
  rw [← List.head?_filter]
  cases hEntry : m card kind with
  | none =>
      have hEmpty : rows.filter (·.isActiveOf card kind) = [] := by
        simpa using hShown.eq_none_iff.mp hEntry
      rw [hEmpty]
      rfl
  | some e =>
      obtain ⟨r, hRow, hSays⟩ := hShown.exists_row hEntry
      rw [hRow]
      exact hSays

theorem type_eq (hShown : m.ShownBy rows) (hEntry : m card kind = some e) :
    e.control.type = kind := by
  obtain ⟨r, hRow, hSays⟩ := hShown.exists_row hEntry
  have hMem : r ∈ rows.filter (·.isActiveOf card kind) := by
    rw [hRow]
    exact List.mem_singleton_self r
  exact ControlRow.type_of_entry? (List.mem_filter.mp hMem).2 hSays

theorem nodup_types (hShown : m.ShownBy rows) (card : Uuid) :
    ((ControlType.all.filterMap (m card)).map (·.control.type)).Nodup := by
  rw [List.map_filterMap]
  refine ControlType.nodup_all.filterMap ?_
  intro kind other type hKind hOther
  obtain ⟨e, hEntry, rfl⟩ := Option.map_eq_some_iff.mp hKind
  obtain ⟨f, hOtherEntry, hType⟩ := Option.map_eq_some_iff.mp hOther
  rw [← hShown.type_eq hEntry, ← hType, hShown.type_eq hOtherEntry]

theorem exists_entry (hShown : m.ShownBy rows) (hMem : r ∈ rows) (hActive : r.isActive = true) :
    ∃ e, r.entry? = some e := by
  obtain ⟨kind, hType⟩ := hShown.typed r hMem
  have hOwn : r.isActiveOf r.cardId kind = true := ControlRow.isActiveOf_iff.mpr ⟨rfl, hType, hActive⟩
  have hSays := hShown.active r.cardId kind
  rw [hShown.filter_of_mem hMem hOwn] at hSays
  cases hEntry : m r.cardId kind with
  | none =>
      rw [hEntry] at hSays
      cases hSays
  | some e =>
      rw [hEntry] at hSays
      exact ⟨e, (List.cons.inj hSays).1⟩

/-- The active rows of a card, type by type. -/
theorem perm_byType (hShown : m.ShownBy rows) (card : Uuid) :
    (rows.filter fun r => r.cardId == card && r.isActive).Perm
      (ControlType.all.flatMap fun kind => rows.filter (·.isActiveOf card kind)) := by
  have hRows : rows.Nodup := hShown.keyed.of_map
  refine (List.perm_ext_iff_of_nodup (hRows.filter _) ?_).mpr fun r => ?_
  · rw [List.nodup_flatMap]
    refine ⟨fun kind _ => hRows.filter _, ControlType.nodup_all.imp fun hDistinct r hFirst hSecond => ?_⟩
    exact hDistinct (ControlRow.key_of_isActiveOf (List.mem_filter.mp hSecond).2
      (List.mem_filter.mp hFirst).2).2
  · constructor
    · intro hRow
      obtain ⟨hMem, hActive⟩ := List.mem_filter.mp hRow
      obtain ⟨kind, hType⟩ := hShown.typed r hMem
      simp only [Bool.and_eq_true, beq_iff_eq] at hActive
      exact List.mem_flatMap.mpr ⟨kind, ControlType.mem_all kind,
        List.mem_filter.mpr ⟨hMem, ControlRow.isActiveOf_iff.mpr ⟨hActive.1, hType, hActive.2⟩⟩⟩
    · intro hRow
      obtain ⟨kind, -, hOwn⟩ := List.mem_flatMap.mp hRow
      obtain ⟨hMem, hActive⟩ := List.mem_filter.mp hOwn
      obtain ⟨hCard, -, hIsActive⟩ := ControlRow.isActiveOf_iff.mp hActive
      exact List.mem_filter.mpr ⟨hMem, by simp [hCard, hIsActive]⟩

/-- What the active rows of a card say is what the map has for it, each once. -/
theorem perm_entries (hShown : m.ShownBy rows) (card : Uuid) :
    ((rows.filter fun r => r.cardId == card && r.isActive).filterMap ControlRow.entry?).Perm
      (ControlType.all.filterMap (m card)) := by
  have hEach : ∀ kind, (rows.filter (·.isActiveOf card kind)).filterMap ControlRow.entry? =
      (m card kind).toList := by
    intro kind
    have hSays := congrArg (List.filterMap id) (hShown.active card kind)
    simpa [List.filterMap_map] using hSays
  have hAll := (hShown.perm_byType card).filterMap ControlRow.entry?
  rw [List.filterMap_flatMap] at hAll
  simpa only [hEach, ← List.filterMap_eq_flatMap_toList] using hAll

/-! ### Rows that are added, overwritten and deactivated -/

/-- A new row sets a control that was not there. -/
theorem append (hShown : m.ShownBy rows) (hAbsent : m card v.type = none)
    (hFresh : ∀ old ∈ rows, old.id ≠ r.id) (hOwn : r.isActiveOf card v.type = true)
    (hPayload : r.payload = v.toPayload) (hCreated : r.createdAt = now) :
    (m.set now card v).ShownBy (rows ++ [r]) where
  keyed := nodup_map_concat hShown.keyed hFresh
  typed := by
    intro row hRow
    rcases List.mem_append.mp hRow with hOld | hNew
    · exact hShown.typed row hOld
    · rw [List.mem_singleton.mp hNew]
      exact ⟨v.type, (ControlRow.isActiveOf_iff.mp hOwn).2.1⟩
  active := by
    intro c k
    rw [List.filter_append, List.map_append, hShown.active]
    by_cases hKey : c = card ∧ k = v.type
    · obtain ⟨rfl, rfl⟩ := hKey
      rw [ControlMap.set_own, hAbsent, List.filter_singleton, hOwn]
      simp [ControlRow.entry?_of_control (ControlRow.isActiveOf_iff.mp hOwn).2.1 hPayload, hCreated]
    · rw [ControlMap.set_other hKey, List.filter_singleton, ControlRow.not_isActiveOf hKey hOwn]
      simp

/-- Changing the active rows of one card and type changes the map there and nowhere else, as long as
the rows stay the rows that they are. -/
theorem of_change {next : ControlMap} {change : ControlRow → ControlRow} (card : Uuid)
    (kind : ControlType) (hShown : m.ShownBy rows)
    (hKept : ∀ r ∈ rows, r.Kept (change r))
    (hOther : ∀ r ∈ rows, r.isActiveOf card kind = false → change r = r)
    (hNext : ∀ c k, ¬ (c = card ∧ k = kind) → next c k = m c k)
    (hOwn : ((rows.map change).filter (·.isActiveOf card kind)).map ControlRow.entry? =
      (next card kind).toList.map some) :
    next.ShownBy (rows.map change) where
  keyed := by
    have hIds : (rows.map change).map (·.id) = rows.map (·.id) := by
      rw [List.map_map]
      exact List.map_congr_left fun r hMem => (hKept r hMem).id
    rw [hIds]
    exact hShown.keyed
  typed := by
    intro row hRow
    obtain ⟨r, hMem, rfl⟩ := List.mem_map.mp hRow
    obtain ⟨k, hType⟩ := hShown.typed r hMem
    exact ⟨k, (hKept r hMem).type.trans hType⟩
  active := by
    intro c k
    by_cases hKey : c = card ∧ k = kind
    · obtain ⟨rfl, rfl⟩ := hKey
      exact hOwn
    -- the rows that are active under another key are the ones that were, and are the same rows
    have hSame : rows.filter ((·.isActiveOf c k) ∘ change) = rows.filter (·.isActiveOf c k) := by
      refine List.filter_congr fun r hMem => ?_
      cases hActive : r.isActiveOf card kind with
      | false => rw [Function.comp_apply, hOther r hMem hActive]
      | true =>
          rw [Function.comp_apply, (hKept r hMem).not_isActiveOf hKey hActive,
            ControlRow.not_isActiveOf hKey hActive]
    rw [hNext c k hKey, ← hShown.active c k, List.filter_map, List.map_map, hSame]
    refine List.map_congr_left fun r hRow => ?_
    obtain ⟨hMem, hActive⟩ := List.mem_filter.mp hRow
    have hNotOwn : r.isActiveOf card kind = false :=
      ControlRow.not_isActiveOf (fun hSameKey => hKey ⟨hSameKey.1.symm, hSameKey.2.symm⟩) hActive
    rw [Function.comp_apply, hOther r hMem hNotOwn]

/-- The active row of a card and a type with a new payload sets the control. -/
theorem overwrite (hShown : m.ShownBy rows) (hOld : old ∈ rows)
    (hOwn : old.isActiveOf card v.type = true) :
    (m.set now card v).ShownBy (rows.map fun r =>
      if r.id == old.id then { old with payload := v.toPayload, updatedAt := now } else r) := by
  refine of_change card v.type hShown (ControlRow.kept_overwritten hShown.keyed hOld
    (ControlRow.isActiveOf_iff.mp hOwn).2.2 v.toPayload) ?_
    (fun c k hOther => ControlMap.set_other hOther) ?_
  · intro r hMem hNotOwn
    rw [if_neg]
    intro hId
    rw [hShown.eq_of_id hMem hOld (by simpa using hId), hOwn] at hNotOwn
    cases hNotOwn
  · have hRow : rows.filter (·.isActiveOf card v.type) = [old] := hShown.filter_of_mem hOld hOwn
    have hSame : rows.filter ((·.isActiveOf card v.type) ∘ fun r =>
        if r.id == old.id then { old with payload := v.toPayload, updatedAt := now } else r) =
          rows.filter (·.isActiveOf card v.type) := by
      refine List.filter_congr fun r hMem => ?_
      by_cases hId : r.id = old.id
      · obtain rfl := hShown.eq_of_id hMem hOld hId
        simp [ControlRow.isActiveOf]
      · simp [hId]
    have hEntry := hShown.active card v.type
    rw [hRow] at hEntry
    rw [List.filter_map, hSame, hRow, ControlMap.set_own]
    cases hHas : m card v.type with
    | none =>
        rw [hHas] at hEntry
        cases hEntry
    | some e =>
        rw [hHas] at hEntry
        obtain ⟨w, -, hSays⟩ := Option.map_eq_some_iff.mp (List.cons.inj hEntry).1
        subst hSays
        have hType := (ControlRow.isActiveOf_iff.mp hOwn).2.1
        simp [ControlRow.entry?_of_control (r := { old with payload := v.toPayload, updatedAt := now })
          hType rfl]

/-- In place of the row that is overwritten stands the new one, all others stay as they are. -/
theorem overwritten_eq {front back : List ControlRow} (hShown : m.ShownBy (front ++ old :: back))
    (row : ControlRow) :
    ((front ++ old :: back).map fun r => if r.id == old.id then row else r) = front ++ row :: back := by
  have hKeyed := hShown.keyed
  rw [List.map_append, List.map_cons, List.nodup_middle, List.nodup_cons] at hKeyed
  have hOthers : ∀ r ∈ front ++ back, (if r.id == old.id then row else r) = r := by
    intro r hMem
    rw [if_neg]
    intro hId
    refine hKeyed.1 ?_
    rw [← List.map_append, ← eq_of_beq hId]
    exact List.mem_map_of_mem hMem
  rw [List.map_append, List.map_cons, if_pos (beq_self_eq_true old.id),
    List.map_congr_left fun r hMem => hOthers r (List.mem_append_left back hMem),
    List.map_congr_left fun r hMem => hOthers r (List.mem_append_right front hMem),
    List.map_id', List.map_id']

/-- Without its active row the control of a card and a type is gone. -/
theorem deactivate (hShown : m.ShownBy rows) :
    (m.erase card kind).ShownBy (rows.map fun r =>
      if r.isActiveOf card kind then { r with isActive := false, updatedAt := now } else r) := by
  refine of_change card kind hShown (fun r _ => ControlRow.kept_deactivated card kind r) ?_
    (fun c k hOther => ControlMap.erase_other hOther) ?_
  · intro r _ hNotOwn
    rw [if_neg (by simp [hNotOwn])]
  · have hNone : (rows.map fun r => if r.isActiveOf card kind then
        { r with isActive := false, updatedAt := now } else r).filter (·.isActiveOf card kind) = [] := by
      rw [List.filter_eq_nil_iff]
      intro row hRow
      obtain ⟨r, -, rfl⟩ := List.mem_map.mp hRow
      split
      · simp [ControlRow.isActiveOf]
      · assumption
    rw [hNone, ControlMap.erase_own]
    rfl

end ControlMap.ShownBy

end CardLedger
