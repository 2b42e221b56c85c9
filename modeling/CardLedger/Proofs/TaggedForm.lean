import CardLedger.Proofs.ControlShapes

/-!
# The tagged form of controls

A control is written in settings with the name of its type inside: as one more field of a record, at any
place in it, or in front of a list. What such a form means is what its name and the rest of it mean as a
stored control, and a control that was read from it is written in it again unless its payload is a list.
-/

namespace CardLedger

/-- The tagged forms of the name of a type and a payload. -/
inductive Value.Tagged (name : String) : Value → Value → Prop where
  | record {front back : List (String × Value)}
      (hUntagged : ∀ field ∈ front ++ back, field.1 ≠ ControlValue.tag) :
      Tagged name (.record (front ++ back)) (.record (front ++ (ControlValue.tag, .text name) :: back))
  | list (items : List Value) : Tagged name (.list items) (.list (.text name :: items))

/-- Whether no two fields of a record have the same name. -/
def Value.HasDistinctNames : Value → Prop
  | .record fields => (fields.map Prod.fst).Nodup
  | _ => True

variable {name : String} {payload j : Value} {v : ControlValue} {fields : List (String × Value)}

/-! ## Fields of a record -/

theorem nodup_names_of_middle {key : String} {held : Value} {front back : List (String × Value)}
    (hNames : ((front ++ (key, held) :: back).map Prod.fst).Nodup) :
    (key :: (front ++ back).map Prod.fst).Nodup :=
  (List.perm_middle.map Prod.fst).nodup_iff.mp hNames

theorem Value.setField_of_not_mem {key : String} {held : Value} (hKey : key ∉ fields.map Prod.fst) :
    setField key held fields = fields ++ [(key, held)] := by
  induction fields with
  | nil => rfl
  | cons field rest ih =>
      obtain ⟨hField, hRest⟩ := List.ne_and_not_mem_of_not_mem_cons hKey
      rw [setField, if_neg hField.symm, ih hRest, List.cons_append]

/-- Fields of new names are added one behind the other. -/
theorem Value.foldl_setField (done : List (String × Value))
    (hNames : ((done ++ fields).map Prod.fst).Nodup) :
    fields.foldl (fun done field => setField field.1 field.2 done) done = done ++ fields := by
  induction fields generalizing done with
  | nil => simp
  | cons field rest ih =>
      have hNew : field.1 ∉ done.map Prod.fst := by
        rw [List.map_append, List.map_cons] at hNames
        exact fun hMem => (List.nodup_append.mp hNames).2.2 _ hMem _ List.mem_cons_self rfl
      rw [List.append_cons] at hNames
      rw [List.foldl_cons, setField_of_not_mem hNew, ih _ hNames, ← List.append_cons]

namespace ControlValue

/-! ## Reading -/

theorem ofTag?_text : ofTag? (.text name) payload = (ofStored name payload).toOption := by
  unfold ofTag? ofStored
  rw [Value.text?, Option.bind_eq_bind, Option.bind_some]
  cases hName : ControlType.ofName? name with
  | none => rfl
  | some kind =>
      rw [Option.bind_eq_bind, Option.bind_some]
      dsimp only
      cases hRead : ofPayload? payload kind with
      | none => rfl
      | some v => rfl

theorem exists_of_ofTag? {found : Value} (hRead : ofTag? found payload = some v) :
    ∃ name, found = .text name := by
  obtain ⟨name, hText, -⟩ := Option.bind_eq_some_iff.mp hRead
  exact ⟨name, Value.text?_eq_some_iff.mp hText⟩

theorem filter_untagged (hUntagged : ∀ field ∈ fields, field.1 ≠ tag) :
    fields.filter (fun field => field.1 != tag) = fields :=
  List.filter_eq_self.mpr fun field hField => bne_iff_ne.mpr (hUntagged field hField)

/-- The tagged form means what its name and its payload mean as a stored control. -/
theorem ofTagged?_of_tagged (hTagged : Value.Tagged name payload j) :
    ofTagged? j = (ofStored name payload).toOption := by
  cases hTagged with
  | @record front back hUntagged =>
      obtain ⟨hFront, hBack⟩ := List.forall_mem_append.mp hUntagged
      have hFound : (front ++ (tag, .text name) :: back).lookup tag = some (.text name) :=
        List.lookup_eq_some_iff.mpr
          ⟨front, back, rfl, fun field hField => bne_iff_ne.mpr (hFront field hField).symm⟩
      unfold ofTagged?
      dsimp only
      rw [hFound, Option.bind_eq_bind, Option.bind_some, List.filter_append,
        List.filter_cons_of_neg (by simp), filter_untagged hFront, filter_untagged hBack]
      exact ofTag?_text
  | list items => exact ofTag?_text

theorem ofTagged?_eq_some_iff (hTagged : Value.Tagged name payload j) :
    ofTagged? j = some v ↔ ofStored name payload = .ok v := by
  rw [ofTagged?_of_tagged hTagged]
  cases ofStored name payload <;> simp [Except.toOption]

theorem ofTagged?_eq_none_iff (hTagged : Value.Tagged name payload j) :
    ofTagged? j = none ↔ ∃ fault, ofStored name payload = .error fault := by
  rw [ofTagged?_of_tagged hTagged]
  cases ofStored name payload <;> simp [Except.toOption]

/-- What can be read is a tagged form. -/
theorem exists_tagged (hNames : j.HasDistinctNames) (hRead : ofTagged? j = some v) :
    ∃ name payload, Value.Tagged name payload j := by
  match j with
  | .record fields =>
      obtain ⟨found, hFound, hRead⟩ := Option.bind_eq_some_iff.mp hRead
      obtain ⟨name, rfl⟩ := exists_of_ofTag? hRead
      obtain ⟨front, back, rfl, hBefore⟩ := List.lookup_eq_some_iff.mp hFound
      have hFront : ∀ field ∈ front, field.1 ≠ tag := fun field hField =>
        (bne_iff_ne.mp (hBefore field hField)).symm
      have hBack : ∀ field ∈ back, field.1 ≠ tag := by
        intro field hField hTag
        have hOnce : tag ∉ (front ++ back).map Prod.fst :=
          (List.nodup_cons.mp (nodup_names_of_middle hNames)).1
        exact hOnce (List.mem_map.mpr ⟨field, List.mem_append_right front hField, hTag⟩)
      exact ⟨name, _, .record (List.forall_mem_append.mpr ⟨hFront, hBack⟩)⟩
  | .list (found :: items) =>
      obtain ⟨name, rfl⟩ := exists_of_ofTag? hRead
      exact ⟨name, _, .list items⟩
  | .list [] | .null | .bool _ | .int _ | .float _ | .text _ => cases hRead

/-! ## Writing -/

/-- What the payload of a control that was read from a tagged form can be. -/
inductive IsTaggable : ControlValue → Prop where
  | record {v : ControlValue} {fields : List (String × Value)} (hPayload : v.toPayload = .record fields)
      (hNames : (tag :: fields.map Prod.fst).Nodup) : IsTaggable v
  | merchantNames (items : List Value) : IsTaggable (.merchantName (.list items))
  | locations (items : List Value) : IsTaggable (.location (.list items))

theorem isTaggable_of_tagged (hNames : j.HasDistinctNames) (hTagged : Value.Tagged name payload j)
    (hStored : ofStored name payload = .ok v) : v.IsTaggable := by
  obtain ⟨-, hWritten⟩ := ofStored_eq_ok_iff.mp hStored
  cases v with
  | merchantCategory rule =>
      exact .record rfl (show [tag, "allowed_categories", "blocked_categories"].Nodup by decide)
  | timeBased rule => exact .record rfl (show [tag, "start_time", "end_time"].Nodup by decide)
  | merchantName own =>
      cases hWritten
      cases hTagged with
      | record => exact .record rfl (nodup_names_of_middle hNames)
      | list items => exact .merchantNames items
  | location own =>
      cases hWritten
      cases hTagged with
      | record => exact .record rfl (nodup_names_of_middle hNames)
      | list items => exact .locations items

theorem toTagged?_of_record (hPayload : v.toPayload = .record fields)
    (hNames : (tag :: fields.map Prod.fst).Nodup) :
    toTagged? v = some (.record ((tag, .text v.type.name) :: fields)) := by
  unfold toTagged?
  rw [hPayload]
  exact congrArg (some ∘ Value.record) (Value.foldl_setField [(tag, .text v.type.name)] hNames)

theorem toTagged?_eq_none_iff (hTaggable : v.IsTaggable) :
    toTagged? v = none ↔ ∃ items, v = .merchantName (.list items) ∨ v = .location (.list items) := by
  cases hTaggable with
  | record hPayload hNames =>
      rw [toTagged?_of_record hPayload hNames]
      refine iff_of_false (by simp) ?_
      rintro ⟨items, rfl | rfl⟩ <;> cases hPayload
  | merchantNames items => exact iff_of_true rfl ⟨items, .inl rfl⟩
  | locations items => exact iff_of_true rfl ⟨items, .inr rfl⟩

/-- What a control is written as means the control. -/
theorem ofTagged?_of_toTagged? (hTaggable : v.IsTaggable) (hWritten : toTagged? v = some j) :
    ofTagged? j = some v := by
  cases hTaggable with
  | @record _ fields hPayload hNames =>
      rw [toTagged?_of_record hPayload hNames] at hWritten
      cases hWritten
      have hUntagged : ∀ field ∈ fields, field.1 ≠ tag := fun field hField hTag =>
        (List.nodup_cons.mp hNames).1 (List.mem_map.mpr ⟨field, hField, hTag⟩)
      have hTagged : Value.Tagged v.type.name (.record fields) (.record ((tag, .text v.type.name) :: fields)) :=
        @Value.Tagged.record v.type.name [] fields hUntagged
      rw [ofTagged?_eq_some_iff hTagged, ← hPayload]
      exact ofStored_toPayload v
  | merchantNames items => cases hWritten
  | locations items => cases hWritten

/-- **The tagged form and the stored form agree.** A stored control means the controls of its type that
its payload is written as. Wherever the name of the type stands in a record, and in front of a list as
well, the tagged form is read as the same control, and it cannot be read if the stored control cannot. A
control read from a tagged form can be written in it unless it is of a reserved type with a list for its
payload, which no check lets pass either, and what is written is read as the same control. -/
theorem tagged_form_is_stored_form :
    (∀ name payload v, ofStored name payload = .ok v ↔ name = v.type.name ∧ v.WrittenAs payload) ∧
    (∀ name payload j, Value.Tagged name payload j →
      (∀ v, ofTagged? j = some v ↔ ofStored name payload = .ok v) ∧
      (ofTagged? j = none ↔ ∃ fault, ofStored name payload = .error fault)) ∧
    ∀ j v, j.HasDistinctNames → ofTagged? j = some v →
      (toTagged? v = none ↔ ∃ items, v = .merchantName (.list items) ∨ v = .location (.list items)) ∧
      (toTagged? v = none → v.validate = .error (.notRecord v.type)) ∧
      ∀ written, toTagged? v = some written → ofTagged? written = some v := by
  refine ⟨fun name payload v => ofStored_eq_ok_iff, ?_, ?_⟩
  · intro name payload j hTagged
    exact ⟨fun v => ofTagged?_eq_some_iff hTagged, ofTagged?_eq_none_iff hTagged⟩
  · intro j v hNames hRead
    obtain ⟨name, payload, hTagged⟩ := exists_tagged hNames hRead
    have hStored : ofStored name payload = .ok v := (ofTagged?_eq_some_iff hTagged).mp hRead
    have hTaggable : v.IsTaggable := isTaggable_of_tagged hNames hTagged hStored
    refine ⟨toTagged?_eq_none_iff hTaggable, ?_, fun written => ofTagged?_of_toTagged? hTaggable⟩
    intro hUnwritten
    obtain ⟨items, rfl | rfl⟩ := (toTagged?_eq_none_iff hTaggable).mp hUnwritten
    · rfl
    · rfl

/-- The agreement for a time window with the name of its type between the fields, and for a reserved
control with a list for its payload. -/
theorem tagged_form_is_stored_form_of_samples :
    let payload : Value := .record [("start_time", .text "08:00"), ("end_time", .text "20:00")]
    let window : Value :=
      .record [("start_time", .text "08:00"), ("control_type", .text "time_based"), ("end_time", .text "20:00")]
    let names : Value := .list [.text "merchant_name", .text "Kiosk"]
    Value.Tagged "time_based" payload window ∧ window.HasDistinctNames ∧ names.HasDistinctNames ∧
      ofTagged? window = some (.timeBased ⟨"08:00", "20:00"⟩) ∧
      (∃ written, toTagged? (.timeBased ⟨"08:00", "20:00"⟩) = some written ∧
        ofTagged? written = some (.timeBased ⟨"08:00", "20:00"⟩)) ∧
      ofTagged? names = some (.merchantName (.list [.text "Kiosk"])) ∧
      toTagged? (.merchantName (.list [.text "Kiosk"])) = none ∧
      (merchantName (.list [.text "Kiosk"])).validate = .error (.notRecord .merchantName) := by
  intro payload window names
  obtain ⟨hStored, hTaggedForm, hWritten⟩ := tagged_form_is_stored_form
  have hTagged : Value.Tagged "time_based" payload window :=
    @Value.Tagged.record "time_based" [("start_time", .text "08:00")] [("end_time", .text "20:00")] (by decide)
  have hWindowNames : window.HasDistinctNames :=
    show ["start_time", "control_type", "end_time"].Nodup by decide
  have hWindow : ofTagged? window = some (.timeBased ⟨"08:00", "20:00"⟩) := by
    refine ((hTaggedForm _ _ _ hTagged).1 _).mpr ((hStored _ _ _).mpr ⟨rfl, ?_⟩)
    exact .timeRecord rfl rfl
  have hNames : ofTagged? names = some (.merchantName (.list [.text "Kiosk"])) := rfl
  have hUnwritten := (hWritten names _ trivial hNames).1.mpr ⟨_, .inl rfl⟩
  exact ⟨hTagged, hWindowNames, trivial, hWindow,
    ⟨_, rfl, (hWritten window _ hWindowNames hWindow).2.2 _ rfl⟩, hNames, hUnwritten,
    (hWritten names _ trivial hNames).2.1 hUnwritten⟩

end ControlValue

end CardLedger
