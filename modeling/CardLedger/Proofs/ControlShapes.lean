import CardLedger.Proofs.ControlMap

/-!
# Shapes of control payloads

The payloads that are accepted next to the name of a control type, each with the control that it stands
for: records with fields that may be missing and others that do not count, lists of the fields in order,
and for the reserved types whatever there is. Reading a stored control gives exactly what these rules say.
-/

namespace CardLedger

/-- What a field of texts holds: no texts if it is missing, otherwise those of a list of nothing else. -/
inductive TextsField : Option Value → List String → Prop where
  | missing : TextsField none []
  | given (texts : List String) : TextsField (some (.list (texts.map .text))) texts

/-- The payloads that mean a control next to the name of its type. -/
inductive ControlValue.WrittenAs : ControlValue → Value → Prop where
  | categoryRecord {fields : List (String × Value)} {allowed blocked : List String}
      (hAllowed : TextsField (fields.lookup "allowed_categories") allowed)
      (hBlocked : TextsField (fields.lookup "blocked_categories") blocked) :
      WrittenAs (.merchantCategory ⟨allowed, blocked⟩) (.record fields)
  | categoryList {items : List Value} {allowed blocked : List String} (hCount : items.length ≤ 2)
      (hAllowed : TextsField items[0]? allowed) (hBlocked : TextsField items[1]? blocked) :
      WrittenAs (.merchantCategory ⟨allowed, blocked⟩) (.list items)
  | timeRecord {fields : List (String × Value)} {opening closing : String}
      (hOpening : fields.lookup "start_time" = some (.text opening))
      (hClosing : fields.lookup "end_time" = some (.text closing)) :
      WrittenAs (.timeBased ⟨opening, closing⟩) (.record fields)
  | timeList (opening closing : String) :
      WrittenAs (.timeBased ⟨opening, closing⟩) (.list [.text opening, .text closing])
  | merchantName (payload : Value) : WrittenAs (.merchantName payload) payload
  | location (payload : Value) : WrittenAs (.location payload) payload

variable {name : String} {payload : Value} {v : ControlValue} {kind : ControlType}

theorem ControlType.ofName?_eq_some_iff : ofName? name = some kind ↔ name = kind.name := by
  constructor
  · intro hName
    exact (beq_iff_eq.mp (List.find?_some (p := fun kind : ControlType => kind.name == name) hName)).symm
  · rintro rfl
    exact ofName?_name kind

theorem Value.text?_eq_some_iff {text : String} : payload.text? = some text ↔ payload = .text text := by
  cases payload with
  | text other => simp [Value.text?]
  | _ => simp [Value.text?]

theorem mapM_text?_eq_some_iff {items : List Value} {texts : List String} :
    items.mapM Value.text? = some texts ↔ items = texts.map .text := by
  induction items generalizing texts with
  | nil => cases texts <;> simp
  | cons item rest ih =>
      rw [List.mapM_cons, Option.bind_eq_bind, Option.bind_eq_some_iff]
      simp only [Value.text?_eq_some_iff, Option.bind_eq_bind, Option.bind_eq_some_iff, ih]
      cases texts with
      | nil => simp
      | cons text texts => simp [eq_comm]

theorem textsOrNone?_eq_some_iff {field : Option Value} {texts : List String} :
    textsOrNone? field = some texts ↔ TextsField field texts := by
  constructor
  · intro hTexts
    cases field with
    | none =>
        cases hTexts
        exact .missing
    | some v =>
        obtain ⟨items, hItems, hAll⟩ := Option.bind_eq_some_iff.mp hTexts
        cases v with
        | list others =>
            cases hItems
            rw [mapM_text?_eq_some_iff.mp hAll]
            exact .given texts
        | _ => cases hItems
  · intro hField
    cases hField with
    | missing => rfl
    | given => exact ControlValue.textsOrNone?_texts texts

theorem fieldsUpTo?_eq_some_iff {count : Nat} {member : String → Nat → Option Value} :
    fieldsUpTo? count payload = some member ↔
      (∃ fields, payload = .record fields ∧ member = fun name _ => fields.lookup name) ∨
        ∃ items, payload = .list items ∧ items.length ≤ count ∧ member = fun _ position => items[position]? := by
  cases payload with
  | record fields => simp [fieldsUpTo?, Value.members?, eq_comm]
  | list items => simp [fieldsUpTo?, Value.members?, eq_comm]
  | _ => simp [fieldsUpTo?, Value.members?]

namespace ControlValue

theorem categoryRule_eq_some_iff {rule : CategoryRule} :
    CategoryRule.ofPayload? payload = some rule ↔ (merchantCategory rule).WrittenAs payload := by
  constructor
  · intro hRule
    obtain ⟨member, hMember, hRest⟩ := Option.bind_eq_some_iff.mp hRule
    obtain ⟨allowed, hAllowed, hRest⟩ := Option.bind_eq_some_iff.mp hRest
    obtain ⟨blocked, hBlocked, hResult⟩ := Option.bind_eq_some_iff.mp hRest
    rw [textsOrNone?_eq_some_iff] at hAllowed hBlocked
    cases hResult
    rcases fieldsUpTo?_eq_some_iff.mp hMember with ⟨fields, rfl, rfl⟩ | ⟨items, rfl, hCount, rfl⟩
    · exact .categoryRecord hAllowed hBlocked
    · exact .categoryList hCount hAllowed hBlocked
  · intro hWritten
    unfold CategoryRule.ofPayload?
    cases hWritten with
    | categoryRecord hAllowed hBlocked =>
        rw [fieldsUpTo?_eq_some_iff.mpr (.inl ⟨_, rfl, rfl⟩)]
        simp [textsOrNone?_eq_some_iff.mpr hAllowed, textsOrNone?_eq_some_iff.mpr hBlocked]
    | categoryList hCount hAllowed hBlocked =>
        rw [fieldsUpTo?_eq_some_iff.mpr (.inr ⟨_, rfl, hCount, rfl⟩)]
        simp [textsOrNone?_eq_some_iff.mpr hAllowed, textsOrNone?_eq_some_iff.mpr hBlocked]

/-- A list with texts in its first two places and no third place is the list of these two. -/
theorem eq_two_texts {items : List Value} {opening closing : String} (hCount : items.length ≤ 2)
    (hOpening : items[0]? = some (.text opening)) (hClosing : items[1]? = some (.text closing)) :
    items = [.text opening, .text closing] := by
  match items with
  | [_, _] =>
      cases hOpening
      cases hClosing
      rfl
  | [_] => cases hClosing
  | [] => cases hOpening
  | _ :: _ :: _ :: rest => simp at hCount

theorem timeRule_eq_some_iff {rule : TimeRule} :
    TimeRule.ofPayload? payload = some rule ↔ (timeBased rule).WrittenAs payload := by
  constructor
  · intro hRule
    obtain ⟨member, hMember, hRest⟩ := Option.bind_eq_some_iff.mp hRule
    obtain ⟨first, hFirst, hRest⟩ := Option.bind_eq_some_iff.mp hRest
    obtain ⟨opening, hOpening, hRest⟩ := Option.bind_eq_some_iff.mp hRest
    obtain ⟨second, hSecond, hRest⟩ := Option.bind_eq_some_iff.mp hRest
    obtain ⟨closing, hClosing, hResult⟩ := Option.bind_eq_some_iff.mp hRest
    cases hResult
    rw [Value.text?_eq_some_iff.mp hOpening] at hFirst
    rw [Value.text?_eq_some_iff.mp hClosing] at hSecond
    rcases fieldsUpTo?_eq_some_iff.mp hMember with ⟨fields, rfl, rfl⟩ | ⟨items, rfl, hCount, rfl⟩
    · exact .timeRecord hFirst hSecond
    · rw [eq_two_texts hCount hFirst hSecond]
      exact .timeList opening closing
  · intro hWritten
    cases hWritten with
    | timeRecord hOpening hClosing =>
        unfold TimeRule.ofPayload?
        rw [fieldsUpTo?_eq_some_iff.mpr (.inl ⟨_, rfl, rfl⟩)]
        simp [hOpening, hClosing, Value.text?]
    | timeList opening closing => rfl

theorem ofPayload?_type : ofPayload? payload v.type = some v ↔ v.WrittenAs payload := by
  cases v with
  | merchantCategory rule =>
      rw [← categoryRule_eq_some_iff]
      change (CategoryRule.ofPayload? payload).map _ = _ ↔ _
      simp
  | timeBased rule =>
      rw [← timeRule_eq_some_iff]
      change (TimeRule.ofPayload? payload).map _ = _ ↔ _
      simp
  | merchantName own =>
      constructor
      · intro hRead
        cases hRead
        exact .merchantName payload
      · intro hWritten
        cases hWritten
        rfl
  | location own =>
      constructor
      · intro hRead
        cases hRead
        exact .location payload
      · intro hWritten
        cases hWritten
        rfl

/-- Reading a stored control gives the control that its payload means next to its name, and fails if
there is none. -/
theorem ofStored_eq_ok_iff : ofStored name payload = .ok v ↔ name = v.type.name ∧ v.WrittenAs payload := by
  rw [← ofPayload?_type]
  unfold ofStored
  constructor
  · intro hRead
    cases hName : ControlType.ofName? name with
    | none =>
        rw [hName] at hRead
        cases hRead
    | some kind =>
        rw [hName] at hRead
        dsimp only at hRead
        cases hPayload : ofPayload? payload kind with
        | none =>
            rw [hPayload] at hRead
            cases hRead
        | some w =>
            rw [hPayload] at hRead
            cases hRead
            rw [type_of_ofPayload? hPayload]
            exact ⟨ControlType.ofName?_eq_some_iff.mp hName, hPayload⟩
  · rintro ⟨rfl, hPayload⟩
    rw [ControlType.ofName?_name]
    dsimp only
    rw [hPayload]

end ControlValue

end CardLedger
