import Mathlib.Data.Bool.Basic
import CardLedger.Controls

/-!
# Controls as a map

A partial map from cards and types to controls, with what setting and removing a control do to it; what
a stored row says of it; and what may become of the rows of a table while controls are set and removed.
-/

namespace CardLedger

/-! ## Types and payloads -/

theorem ControlType.ofName?_name (kind : ControlType) : ofName? kind.name = some kind := by
  cases kind <;> rfl

theorem ControlType.name_injective : Function.Injective ControlType.name := by
  intro kind other hName
  have hRead := ofName?_name kind
  rw [hName, ofName?_name] at hRead
  exact (Option.some.inj hRead).symm

theorem ControlType.mem_all (kind : ControlType) : kind ∈ all := by
  cases kind <;> decide

theorem ControlType.nodup_all : all.Nodup := by
  decide

namespace ControlValue

theorem textsOrNone?_texts (texts : List String) :
    textsOrNone? (some (.list (texts.map .text))) = some texts := by
  change (texts.map Value.text).mapM Value.text? = some texts
  induction texts with
  | nil => rfl
  | cons text rest ih => simp [Value.text?, ih]

theorem ofPayload?_categoryRule (rule : CategoryRule) :
    CategoryRule.ofPayload? (toPayload (.merchantCategory rule)) = some rule :=
  calc CategoryRule.ofPayload? (toPayload (.merchantCategory rule))
    _ = (textsOrNone? (some (.list (rule.allowed.map .text)))).bind fun allowed =>
          (textsOrNone? (some (.list (rule.blocked.map .text)))).bind fun blocked =>
            some ⟨allowed, blocked⟩ := rfl
    _ = some rule := by
          rw [textsOrNone?_texts, textsOrNone?_texts]
          rfl

theorem ofPayload?_toPayload (v : ControlValue) : ofPayload? v.toPayload v.type = some v := by
  cases v with
  | merchantCategory rule =>
      change (CategoryRule.ofPayload? _).map _ = _
      rw [ofPayload?_categoryRule]
      rfl
  | timeBased rule => rfl
  | merchantName payload => rfl
  | location payload => rfl

theorem ofStored_toPayload (v : ControlValue) : ofStored v.type.name v.toPayload = .ok v := by
  unfold ofStored
  rw [ControlType.ofName?_name]
  dsimp only
  rw [ofPayload?_toPayload]

theorem type_of_ofPayload? {payload : Value} {kind : ControlType} {v : ControlValue}
    (hRead : ofPayload? payload kind = some v) : v.type = kind := by
  cases kind with
  | merchantCategory =>
      obtain ⟨rule, -, rfl⟩ := Option.map_eq_some_iff.mp hRead
      rfl
  | timeBased =>
      obtain ⟨rule, -, rfl⟩ := Option.map_eq_some_iff.mp hRead
      rfl
  | merchantName =>
      cases hRead
      rfl
  | location =>
      cases hRead
      rfl

theorem type_of_ofStored {kind : ControlType} {payload : Value} {v : ControlValue}
    (hRead : ofStored kind.name payload = .ok v) : v.type = kind := by
  unfold ofStored at hRead
  rw [ControlType.ofName?_name] at hRead
  dsimp only at hRead
  cases hPayload : ofPayload? payload kind with
  | none =>
      rw [hPayload] at hRead
      cases hRead
  | some w =>
      rw [hPayload] at hRead
      cases hRead
      exact type_of_ofPayload? hPayload

end ControlValue

/-! ## Maps -/

/-- A control, and since when its card has had a control of its type. -/
structure ControlEntry where
  control : ControlValue
  since : Instant

/-- A partial map from cards and types to controls. -/
def ControlMap : Type :=
  Uuid → ControlType → Option ControlEntry

namespace ControlMap

variable {m : ControlMap} {now : Instant} {card : Uuid} {v : ControlValue} {kind : ControlType}

/-- The map without controls. -/
def empty : ControlMap :=
  fun _ _ => none

/-- Set a control of a card. A card that has one of its type already has had it since before. -/
def set (m : ControlMap) (now : Instant) (card : Uuid) (v : ControlValue) : ControlMap :=
  fun c kind =>
    if c = card ∧ kind = v.type then some ⟨v, ((m card v.type).map (·.since)).getD now⟩ else m c kind

/-- Remove the control of a card and a type. -/
def erase (m : ControlMap) (card : Uuid) (kind : ControlType) : ControlMap :=
  fun c k => if c = card ∧ k = kind then none else m c k

/-- Set controls of a card one after the other. -/
def setAll (m : ControlMap) (now : Instant) (card : Uuid) (controls : List ControlValue) : ControlMap :=
  controls.foldl (fun m v => m.set now card v) m

theorem set_own : m.set now card v card v.type =
    some ⟨v, ((m card v.type).map (·.since)).getD now⟩ :=
  if_pos ⟨rfl, rfl⟩

theorem set_other {c : Uuid} (hOther : ¬ (c = card ∧ kind = v.type)) :
    m.set now card v c kind = m c kind :=
  if_neg hOther

theorem erase_own : m.erase card kind card kind = none :=
  if_pos ⟨rfl, rfl⟩

theorem erase_other {c : Uuid} {k : ControlType} (hOther : ¬ (c = card ∧ k = kind)) :
    m.erase card kind c k = m c k :=
  if_neg hOther

end ControlMap

/-! ## Rows -/

/-- What a row says, unless it cannot be decoded. -/
def ControlRow.entry? (r : ControlRow) : Option ControlEntry :=
  (ControlValue.ofStored r.type r.payload).toOption.map fun v => ⟨v, r.createdAt⟩

/-- What becomes of a row: it stays the row that it is, and if it is inactive nothing changes. -/
structure ControlRow.Kept (r later : ControlRow) : Prop where
  id : later.id = r.id
  card : later.cardId = r.cardId
  type : later.type = r.type
  created : later.createdAt = r.createdAt
  inactive : r.isActive = false → later = r

namespace ControlRow

variable {r other : ControlRow} {card : Uuid} {kind : ControlType} {v : ControlValue}

theorem isActiveOf_iff :
    r.isActiveOf card kind = true ↔ r.cardId = card ∧ r.type = kind.name ∧ r.isActive = true := by
  simp [isActiveOf, and_assoc]

/-- An active row is a row of one card and of one type. -/
theorem key_of_isActiveOf {c : Uuid} {k : ControlType} (hOwn : r.isActiveOf card kind = true)
    (hOther : r.isActiveOf c k = true) : c = card ∧ k = kind := by
  obtain ⟨hCard, hType, -⟩ := isActiveOf_iff.mp hOwn
  obtain ⟨hOtherCard, hOtherType, -⟩ := isActiveOf_iff.mp hOther
  exact ⟨hOtherCard.symm.trans hCard, ControlType.name_injective (hOtherType.symm.trans hType)⟩

theorem not_isActiveOf {c : Uuid} {k : ControlType} (hKey : ¬ (c = card ∧ k = kind))
    (hOwn : r.isActiveOf card kind = true) : r.isActiveOf c k = false :=
  Bool.eq_false_of_not_eq_true fun hOther => hKey (key_of_isActiveOf hOwn hOther)

/-- A row stays a row of its card and its type. -/
theorem Kept.not_isActiveOf {c : Uuid} {k : ControlType} (hKept : r.Kept other)
    (hKey : ¬ (c = card ∧ k = kind)) (hOwn : r.isActiveOf card kind = true) :
    other.isActiveOf c k = false := by
  refine Bool.eq_false_of_not_eq_true fun hActive => ?_
  obtain ⟨hCard, hType, -⟩ := isActiveOf_iff.mp hOwn
  obtain ⟨hOtherCard, hOtherType, -⟩ := isActiveOf_iff.mp hActive
  rw [hKept.card, hCard] at hOtherCard
  rw [hKept.type, hType] at hOtherType
  exact hKey ⟨hOtherCard.symm, ControlType.name_injective hOtherType.symm⟩

theorem Kept.refl (r : ControlRow) : r.Kept r :=
  ⟨rfl, rfl, rfl, rfl, fun _ => rfl⟩

theorem Kept.trans {third : ControlRow} (hFirst : r.Kept other) (hSecond : other.Kept third) :
    r.Kept third where
  id := hSecond.id.trans hFirst.id
  card := hSecond.card.trans hFirst.card
  type := hSecond.type.trans hFirst.type
  created := hSecond.created.trans hFirst.created
  inactive := by
    intro hInactive
    obtain rfl := hFirst.inactive hInactive
    exact hSecond.inactive hInactive

/-- A row that is active has been active all along. -/
theorem Kept.isActive (hKept : r.Kept other) (hActive : other.isActive = true) : r.isActive = true := by
  cases hBefore : r.isActive with
  | true => rfl
  | false =>
      rw [hKept.inactive hBefore, hBefore] at hActive
      cases hActive

theorem entry?_of_control (hType : r.type = v.type.name) (hPayload : r.payload = v.toPayload) :
    r.entry? = some ⟨v, r.createdAt⟩ := by
  unfold entry?
  rw [hType, hPayload, ControlValue.ofStored_toPayload]
  rfl

theorem type_of_entry? {e : ControlEntry} (hOwn : r.isActiveOf card kind = true)
    (hEntry : r.entry? = some e) : e.control.type = kind := by
  obtain ⟨-, hType, -⟩ := isActiveOf_iff.mp hOwn
  obtain ⟨v, hRead, rfl⟩ := Option.map_eq_some_iff.mp hEntry
  rw [hType] at hRead
  cases hStored : ControlValue.ofStored kind.name r.payload with
  | error fault =>
      rw [hStored] at hRead
      cases hRead
  | ok w =>
      rw [hStored] at hRead
      cases hRead
      exact ControlValue.type_of_ofStored hStored

end ControlRow

end CardLedger
