import CardLedger.Error

/-!
# Outcomes of operations

How a sequence of checks and changes is taken apart again: it succeeds exactly if each part does,
and it fails as its first failing part does. A call returns what it comes to, unless that stands for a
panic.
-/

namespace CardLedger

variable {ε φ α β : Type}

@[simp]
theorem ok_bind (a : α) (f : α → Except ε β) : (Except.ok a >>= f) = f a := rfl

@[simp]
theorem error_bind (e : ε) (f : α → Except ε β) : (Except.error e >>= f) = .error e := rfl

@[simp]
theorem pure_eq_ok (a : α) : (pure a : Except ε α) = .ok a := rfl

theorem bind_eq_ok_iff {x : Except ε α} {f : α → Except ε β} {b : β} :
    (x >>= f) = .ok b ↔ ∃ a, x = .ok a ∧ f a = .ok b := by
  cases x with
  | error e => simp
  | ok a => simp

theorem bind_eq_error_iff {x : Except ε α} {f : α → Except ε β} {e : ε} :
    (x >>= f) = .error e ↔ x = .error e ∨ ∃ a, x = .ok a ∧ f a = .error e := by
  cases x with
  | error fault => simp
  | ok a => simp

theorem map_eq_ok_iff {x : Except ε α} {f : α → β} {b : β} :
    x.map f = .ok b ↔ ∃ a, x = .ok a ∧ f a = b := by
  cases x with
  | error e => simp [Except.map]
  | ok a => simp [Except.map]

theorem map_map {γ : Type} {x : Except ε α} {f : α → β} {g : β → γ} : (x.map f).map g = x.map (g ∘ f) := by
  cases x with
  | error e => rfl
  | ok a => rfl

/-- A change of what an outcome holds can be put off until after the next step. -/
theorem map_bind {α' β' : Type} {x : Except ε α} {h : α → α'} {k : β → β'} {f : α → Except ε β}
    {g : α' → Except ε β'} (hNext : ∀ a, x = .ok a → g (h a) = (f a).map k) :
    (x.map h >>= g) = (x >>= f).map k := by
  cases x with
  | error e => rfl
  | ok a => exact hNext a rfl

/-- Two options that show the same are both none, or both hold something that shows the same. -/
theorem option_map_cases {γ : Type} {x : Option α} {y : Option β} {f : α → γ} {g : β → γ}
    (hSame : x.map f = y.map g) : (x = none ∧ y = none) ∨ ∃ a b, x = some a ∧ y = some b ∧ f a = g b := by
  cases x with
  | none => exact .inl ⟨rfl, Option.map_eq_none_iff.mp hSame.symm⟩
  | some a =>
      obtain ⟨b, hb, hfg⟩ := Option.map_eq_some_iff.mp hSame.symm
      exact .inr ⟨a, b, rfl, hb, hfg.symm⟩

/-- The error of an outcome, if it is one. -/
def failure? : Except ε α → Option ε
  | .error e => some e
  | .ok _ => none

theorem failure?_eq_some_iff {x : Except ε α} {e : ε} : failure? x = some e ↔ x = .error e := by
  cases x with
  | error fault => simp [failure?]
  | ok a => simp [failure?]

theorem exists_ok_of_isSome {x : Except ε α} (hSome : x.toOption.isSome = true) : ∃ a, x = .ok a := by
  cases x with
  | error e => cases hSome
  | ok a => exact ⟨a, rfl⟩

@[simp]
theorem liftFault_ok (lift : φ → Error) (a : α) : liftFault lift (.ok a) = .ok a := rfl

@[simp]
theorem liftFault_error (lift : φ → Error) (fault : φ) :
    liftFault lift (.error fault : Except φ α) = .error (lift fault) := rfl

theorem liftFault_eq_ok_iff {lift : φ → Error} {x : Except φ α} {a : α} :
    liftFault lift x = .ok a ↔ x = .ok a := by
  cases x with
  | error fault => simp
  | ok b => simp

/-! ## Answers and panics -/

theorem Error.isPanic_iff {e : Error} :
    e.isPanic = true ↔ ∃ instant offset, e = .config (.window (.noLocalDate instant offset)) := by
  unfold Error.isPanic
  split
  · next instant offset => exact ⟨fun _ => ⟨instant, offset, rfl⟩, fun _ => rfl⟩
  · next hOther =>
      refine ⟨fun hPanic => (Bool.false_ne_true hPanic).elim, ?_⟩
      rintro ⟨instant, offset, rfl⟩
      exact (hOther instant offset rfl).elim

theorem CallEnd.of_panic {e : Error} (hPanic : e.isPanic = true) :
    CallEnd.of (.error e : Except Error α) = .panicked :=
  if_pos hPanic

theorem CallEnd.of_failure {e : Error} (hReturned : e.isPanic = false) :
    CallEnd.of (.error e : Except Error α) = .returned (.error e) :=
  if_neg (ne_true_of_eq_false hReturned)

theorem CallEnd.of_eq_error_iff {x : Except Error α} {e : Error} :
    CallEnd.of x = .returned (.error e) ↔ x = .error e ∧ e.isPanic = false := by
  constructor
  · intro hEnds
    cases x with
    | ok a => cases hEnds
    | error failure =>
        cases hPanic : failure.isPanic with
        | true =>
            rw [CallEnd.of_panic hPanic] at hEnds
            cases hEnds
        | false =>
            rw [CallEnd.of_failure hPanic] at hEnds
            cases hEnds
            exact ⟨rfl, hPanic⟩
  · rintro ⟨rfl, hReturned⟩
    exact CallEnd.of_failure hReturned

theorem CallEnd.of_eq_panicked_iff {x : Except Error α} :
    CallEnd.of x = .panicked ↔ ∃ e, x = .error e ∧ e.isPanic = true := by
  constructor
  · intro hEnds
    cases x with
    | ok a => cases hEnds
    | error e =>
        refine ⟨e, rfl, Bool.of_not_eq_false fun hReturned => ?_⟩
        rw [CallEnd.of_failure hReturned] at hEnds
        cases hEnds
  · rintro ⟨e, rfl, hPanic⟩
    exact CallEnd.of_panic hPanic

/-- A failure of the tables themselves. -/
def Error.IsOfTables (e : Error) : Prop :=
  ∃ text, e = .database text

theorem unless_eq_ok_iff {c : Prop} [Decidable c] {e : ε} {x : Except ε α} {a : α} :
    (if c then .error e else x) = .ok a ↔ ¬ c ∧ x = .ok a := by
  by_cases hc : c
  · simp [hc]
  · simp [hc]

end CardLedger
