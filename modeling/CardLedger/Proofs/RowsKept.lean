import Mathlib.Data.List.Nodup
import CardLedger.Store.Basic

/-!
# Tables that keep their rows

A table of the store never loses a row or its place. What may become of a row is told by a relation that
is reflexive and transitive, so that it can be followed through a run call by call. The key of a table
stays unique as rows are added, and finds one row.
-/

namespace CardLedger

/-- No row is removed, and each is in its place what it may have become. -/
def RowsKept {α : Type} (Kept : α → α → Prop) (rows next : List α) : Prop :=
  ∀ (i : Nat) r, rows[i]? = some r → ∃ later, next[i]? = some later ∧ Kept r later

namespace RowsKept

variable {α : Type} {Kept : α → α → Prop} {rows next last : List α}

theorem refl (hRefl : ∀ r, Kept r r) : RowsKept Kept rows rows :=
  fun _ r hRow => ⟨r, hRow, hRefl r⟩

theorem trans (hTrans : ∀ {r later final}, Kept r later → Kept later final → Kept r final)
    (hFirst : RowsKept Kept rows next) (hSecond : RowsKept Kept next last) :
    RowsKept Kept rows last := by
  intro i r hRow
  obtain ⟨later, hLater, hKept⟩ := hFirst i r hRow
  obtain ⟨final, hFinal, hStill⟩ := hSecond i later hLater
  exact ⟨final, hFinal, hTrans hKept hStill⟩

theorem append (hRefl : ∀ r, Kept r r) (new : List α) : RowsKept Kept rows (rows ++ new) := by
  intro i r hRow
  obtain ⟨hIndex, -⟩ := List.getElem?_eq_some_iff.mp hRow
  exact ⟨r, by rw [List.getElem?_append_left hIndex, hRow], hRefl r⟩

theorem map {change : α → α} (hChange : ∀ r ∈ rows, Kept r (change r)) :
    RowsKept Kept rows (rows.map change) := by
  intro i r hRow
  exact ⟨change r, by rw [List.getElem?_map, hRow, Option.map_some],
    hChange r (List.mem_of_getElem? hRow)⟩

/-- What rows keep of themselves stands in front of what the table holds later. -/
theorem map_prefix {β : Type} {f : α → β} (hKept : RowsKept Kept rows next)
    (hSame : ∀ r later, Kept r later → f later = f r) : rows.map f <+: next.map f := by
  rw [List.prefix_iff_getElem?]
  intro i hIndex
  rw [List.length_map] at hIndex
  obtain ⟨later, hLater, hRow⟩ := hKept i rows[i] (List.getElem?_eq_getElem hIndex)
  rw [List.getElem?_map, hLater, Option.map_some, hSame _ _ hRow, List.getElem_map]

end RowsKept

/-! ## Keys -/

section

variable {α β : Type} {key : α → β} {rows new : List α} {row : α}

/-- A key stays unique when rows are added that have keys of their own. -/
theorem nodup_map_append (hKeyed : (rows.map key).Nodup) (hNewKeyed : (new.map key).Nodup)
    (hApart : ∀ r ∈ new, ∀ old ∈ rows, key old ≠ key r) : ((rows ++ new).map key).Nodup := by
  rw [List.map_append, List.nodup_append]
  refine ⟨hKeyed, hNewKeyed, ?_⟩
  rintro _ hOld _ hNew hSame
  obtain ⟨old, hOldMem, rfl⟩ := List.mem_map.mp hOld
  obtain ⟨r, hMem, rfl⟩ := List.mem_map.mp hNew
  exact hApart r hMem old hOldMem hSame

theorem nodup_map_concat (hKeyed : (rows.map key).Nodup) (hNew : ∀ old ∈ rows, key old ≠ key row) :
    ((rows ++ [row]).map key).Nodup := by
  refine nodup_map_append hKeyed (List.nodup_singleton _) fun r hMem => ?_
  rw [List.mem_singleton.mp hMem]
  exact hNew

/-- Under a key that is unique a row is the only one of its key. -/
theorem filter_key [BEq β] [LawfulBEq β]
    (hKeyed : (rows.map key).Nodup) (hMem : row ∈ rows) :
    (rows.filter fun other => key other == key row) = [row] := by
  induction rows with
  | nil => cases hMem
  | cons first rest ih =>
      rw [List.map_cons, List.nodup_cons] at hKeyed
      obtain ⟨hFirst, hRest⟩ := hKeyed
      rcases List.mem_cons.mp hMem with rfl | hLater
      · have hNone : (rest.filter fun other => key other == key row) = [] := by
          rw [List.filter_eq_nil_iff]
          intro other hOther hSame
          exact hFirst (eq_of_beq hSame ▸ List.mem_map_of_mem hOther)
        rw [List.filter_cons, if_pos (beq_self_eq_true (key row)), hNone]
      · have hOther : ¬ (key first == key row) = true := fun hSame =>
          hFirst (eq_of_beq hSame ▸ List.mem_map_of_mem hLater)
        rw [List.filter_cons, if_neg hOther, ih hRest hLater]

end

end CardLedger
