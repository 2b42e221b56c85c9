import CardLedger.Control.Policy
import CardLedger.Proofs.ControlShapes
import CardLedger.Proofs.Outcome

/-!
# Canonical payloads

A payload may be written in several shapes, and a control is written in one. To write anew what was read
loses nothing: the new payload means the same control next to the same name, is checked and evaluated alike,
and is written in the same way from then on. So the payloads of a whole table can be written anew without a
card noticing. What cannot be read is told by its name, or by its type if the name is known.
-/

namespace CardLedger

variable {name : String} {payload : Value} {v : ControlValue} {kind : ControlType} {fault : ControlFault}

namespace ControlValue

/-- Reading fails in two ways: there is no type of the name, or no control of the type is written so. -/
theorem ofStored_eq_error_iff : ofStored name payload = .error fault ↔
    (fault = .unknownType name ∧ ∀ kind : ControlType, name ≠ kind.name) ∨
      ∃ kind : ControlType, name = kind.name ∧ fault = .wrongPayload kind ∧
        ∀ v : ControlValue, v.type = kind → ¬ v.WrittenAs payload := by
  unfold ofStored
  cases hName : ControlType.ofName? name with
  | none =>
      have hUnknown : ∀ kind : ControlType, name ≠ kind.name := by
        rintro kind rfl
        rw [ControlType.ofName?_name] at hName
        cases hName
      constructor
      · rintro ⟨⟩
        exact .inl ⟨rfl, hUnknown⟩
      · rintro (⟨rfl, -⟩ | ⟨kind, hKnown, -⟩)
        · rfl
        · exact absurd hKnown (hUnknown kind)
  | some kind =>
      obtain rfl := ControlType.ofName?_eq_some_iff.mp hName
      dsimp only
      cases hRead : ofPayload? payload kind with
      | some v =>
          -- a control was read, so neither fault can have been told
          obtain rfl := type_of_ofPayload? hRead
          have hWritten := ofPayload?_type.mp hRead
          refine iff_of_false (by simp) ?_
          rintro (⟨-, hUnknown⟩ | ⟨other, hSame, -, hUnwritten⟩)
          · exact hUnknown _ rfl
          · exact hUnwritten v (ControlType.name_injective hSame) hWritten
      | none =>
          have hUnwritten : ∀ v : ControlValue, v.type = kind → ¬ v.WrittenAs payload := by
            rintro v rfl hWritten
            rw [ofPayload?_type.mpr hWritten] at hRead
            cases hRead
          constructor
          · rintro ⟨⟩
            exact .inr ⟨kind, rfl, rfl, hUnwritten⟩
          · rintro (⟨-, hUnknown⟩ | ⟨other, hSame, rfl, -⟩)
            · exact absurd rfl (hUnknown kind)
            · rw [ControlType.name_injective hSame]

/-- What was read is read again from what is written of it. -/
theorem ofStored_toPayload_of_read (hRead : ofStored name payload = .ok v) :
    ofStored name v.toPayload = .ok v := by
  obtain ⟨rfl, -⟩ := ofStored_eq_ok_iff.mp hRead
  exact ofStored_toPayload v

end ControlValue

/-! ## Tables -/

/-- A row with its payload written anew, if it can be read. -/
def ControlRow.rewritten (r : ControlRow) : ControlRow :=
  match ControlValue.ofStored r.type r.payload with
  | .ok v => { r with payload := v.toPayload }
  | .error _ => r

/-- A store with the payloads of its controls written anew. -/
def Store.rewriteControls (s : Store) : Store :=
  { s with controls := s.controls.map ControlRow.rewritten }

namespace ControlRow

variable {r : ControlRow}

theorem rewritten_eq (r : ControlRow) : ∃ payload, r.rewritten = { r with payload } ∧
    ControlValue.ofStored r.type payload = ControlValue.ofStored r.type r.payload := by
  unfold rewritten
  split
  · next v hRead => exact ⟨v.toPayload, rfl, (ControlValue.ofStored_toPayload_of_read hRead).trans hRead.symm⟩
  · exact ⟨r.payload, rfl, rfl⟩

end ControlRow

namespace Store

variable {s : Store} {card : Uuid}

theorem activeControls_rewriteControls :
    s.rewriteControls.activeControls card = (s.activeControls card).map ControlRow.rewritten := by
  have hKept : ∀ r : ControlRow, r.rewritten.cardId = r.cardId ∧ r.rewritten.isActive = r.isActive ∧
      r.rewritten.createdAt = r.createdAt := by
    intro r
    obtain ⟨payload, hRow, -⟩ := r.rewritten_eq
    rw [hRow]
    exact ⟨rfl, rfl, rfl⟩
  -- rows are chosen and sorted by what is kept
  unfold activeControls oldestFirst rewriteControls
  rw [List.filter_map, List.map_mergeSort]
  · refine congrArg (fun rows : List ControlRow => List.mergeSort (rows.map ControlRow.rewritten) _) ?_
    refine List.filter_congr fun r _ => ?_
    rw [Function.comp_apply, (hKept r).1, (hKept r).2.1]
  · intro r _ later _
    dsimp only
    rw [(hKept r).2.2, (hKept later).2.2]

/-- A card has the same controls after the payloads have been written anew. -/
theorem activeControlValues_rewriteControls :
    s.rewriteControls.activeControlValues card = s.activeControlValues card := by
  unfold activeControlValues
  rw [activeControls_rewriteControls]
  induction s.activeControls card with
  | nil => rfl
  | cons r rest ih =>
      obtain ⟨payload, hRow, hRead⟩ := r.rewritten_eq
      rw [List.map_cons, List.mapM_cons, List.mapM_cons, ih, hRow]
      dsimp only
      rw [hRead]

end Store

namespace ControlValue

/-- Stored controls are canonical. Every control is read again from what is written of it. Whatever was read
is of the type that the name tells, and what is written of it next to that name is read as the same control,
checked and evaluated alike, and written in the same way again. What cannot be read is a fault of the
configuration: an unknown name, or a payload in which no control of its type is written. And if all payloads
of a store are written anew, every card has the controls that it had. -/
theorem stored_controls_are_canonical :
    (∀ v : ControlValue, ofStored v.type.name v.toPayload = .ok v) ∧
    (∀ name payload v, ofStored name payload = .ok v →
      v.type.name = name ∧ ofStored name v.toPayload = .ok v ∧
      (ofStored name v.toPayload >>= validate) = (ofStored name payload >>= validate) ∧
      (∀ category now, (ofStored name v.toPayload >>= refusal? category now) =
        (ofStored name payload >>= refusal? category now)) ∧
      (ofStored name v.toPayload).map toPayload = .ok v.toPayload) ∧
    (∀ name payload e, liftFault .controlConfig (ofStored name payload) = .error e ↔
      ∃ fault, e = .controlConfig fault ∧
        ((fault = .unknownType name ∧ ∀ kind : ControlType, name ≠ kind.name) ∨
          ∃ kind : ControlType, name = kind.name ∧ fault = .wrongPayload kind ∧
            ∀ v : ControlValue, v.type = kind → ¬ v.WrittenAs payload)) ∧
    ∀ (s : Store) card, s.rewriteControls.activeControlValues card = s.activeControlValues card := by
  refine ⟨ofStored_toPayload, ?_, ?_, fun s card => Store.activeControlValues_rewriteControls⟩
  · intro name payload v hRead
    have hAgain : ofStored name v.toPayload = .ok v := ofStored_toPayload_of_read hRead
    refine ⟨(ofStored_eq_ok_iff.mp hRead).1.symm, hAgain, ?_, fun category now => ?_, ?_⟩
    · rw [hAgain, hRead]
    · rw [hAgain, hRead]
    · rw [hAgain]
      rfl
  · intro name payload e
    simp only [← ofStored_eq_error_iff]
    cases ofStored name payload with
    | ok v => simp
    | error fault => simp [eq_comm]

/-- A category rule in a list without its second field is written as a record from then on; null is no
payload of it, and there is no type of velocity. -/
theorem stored_controls_are_canonical_of_list :
    let payload : Value := .list [.list [.text "Food"]]
    let written : Value := .record [("allowed_categories", .list [.text "Food"]), ("blocked_categories", .list [])]
    ofStored "merchant_category" payload = .ok (.merchantCategory ⟨["Food"], []⟩) ∧
      ofStored "merchant_category" written = .ok (.merchantCategory ⟨["Food"], []⟩) ∧
      (ofStored "merchant_category" written).map toPayload = .ok written ∧
      (∃ fault, liftFault .controlConfig (ofStored "merchant_category" .null) = .error (.controlConfig fault)) ∧
      liftFault .controlConfig (ofStored "velocity" written) = .error (.controlConfig (.unknownType "velocity")) := by
  intro payload written
  obtain ⟨-, hCanonical, hFails, -⟩ := stored_controls_are_canonical
  have hRead : ofStored "merchant_category" payload = .ok (.merchantCategory ⟨["Food"], []⟩) := rfl
  obtain ⟨-, hAgain, -, -, hWritten⟩ := hCanonical "merchant_category" payload _ hRead
  refine ⟨hRead, hAgain, hWritten, ⟨.wrongPayload .merchantCategory, ?_⟩, ?_⟩
  · refine (hFails _ _ _).mpr ⟨_, rfl, .inr ⟨.merchantCategory, rfl, rfl, fun v hType hShape => ?_⟩⟩
    cases hShape with
    | merchantName => cases hType
    | location => cases hType
  · refine (hFails _ _ _).mpr ⟨_, rfl, .inl ⟨rfl, fun kind hName => ?_⟩⟩
    cases kind <;> exact absurd hName (by decide)

end ControlValue

end CardLedger
