import Mathlib.Data.List.Induction
import CardLedger.Proofs.CardRows
import CardLedger.Proofs.Outcome

/-!
# Calls that write in one database transaction

A call reads the tables, and then writes to them inside of one database transaction. Here it is taken
apart into its steps. The tables that everyone sees are apart from the store that an open transaction
works on; executing the COMMIT is the one step that puts the second in place of the first, and a call that
ends before just drops what it worked on.

Between the steps the deadline of the call can strike, the database can fail, and others can write unless
the transaction keeps them out. The end of a transaction is three steps: the COMMIT is handed over,
executed, and acknowledged. A deadline that strikes before it is handed over has nothing to undo but the
working store. One that strikes after that cannot call the COMMIT back: the caller is told that the time is
up, and what was written stays.

Main statements: `Execution.run_alone`, `Execution.all_or_nothing`.
-/

namespace CardLedger

/-! ## Scripts and procedures -/

/-- What is done inside a transaction: statements one after the other, which know what the earlier ones
have returned. -/
inductive Script (α : Type) : Type 1 where
  | done (value : α)
  | statement {β : Type} (run : Store → Except Error (β × Store)) (next : β → Script α)

/-- What a call does: it reads the tables as they are, some times, and then works in a transaction. -/
inductive Procedure (α : Type) : Type 1 where
  | transaction (body : Script α)
  | query {β : Type} (read : Store → Except Error β) (next : β → Procedure α)

namespace Script

variable {α β : Type}

/-- A single statement. -/
def perform (run : Store → Except Error (α × Store)) : Script α :=
  statement run done

/-- One script after the other. -/
def andThen : Script α → (α → Script β) → Script β
  | done value, f => f value
  | statement run next, f => statement run fun found => (next found).andThen f

instance : Monad Script where
  pure := done
  bind := andThen

/-- What a script comes to on a store. -/
def result : Script α → Store → Except Error (α × Store)
  | done value, s => .ok (value, s)
  | statement run next, s => do
      let (found, s) ← run s
      (next found).result s

@[simp]
theorem result_pure (value : α) (s : Store) : (pure value : Script α).result s = .ok (value, s) := rfl

@[simp]
theorem result_perform (run : Store → Except Error (α × Store)) (s : Store) :
    (perform run).result s = run s := by
  change (run s >>= fun found => .ok (found.1, found.2)) = run s
  cases run s with
  | error e => rfl
  | ok found => rfl

@[simp]
theorem result_bind (x : Script α) (f : α → Script β) (s : Store) :
    (x >>= f).result s = x.result s >>= fun found => (f found.1).result found.2 := by
  change (x.andThen f).result s = _
  induction x generalizing s with
  | done value => rfl
  | statement run next ih =>
      change (run s >>= fun found => ((next found.1).andThen f).result found.2) = _
      simp only [ih]
      exact (bind_assoc (run s) _ _).symm

end Script

namespace Procedure

variable {α : Type}

/-- What a procedure comes to on a store that nobody else writes to. -/
def result : Procedure α → Store → Except Error (α × Store)
  | transaction body, s => body.result s
  | query read next, s => do
      let found ← read s
      (next found).result s

/-- A transaction that a procedure comes to, depending on what it has read. -/
inductive Reaches : Procedure α → Script α → Prop where
  | here (body : Script α) : Reaches (.transaction body) body
  | read {β : Type} {read : Store → Except Error β} {next : β → Procedure α} {body : Script α} {s : Store}
      {found : β} (hRead : read s = .ok found) (hReaches : Reaches (next found) body) :
      Reaches (.query read next) body

theorem reaches_transaction_iff {body other : Script α} :
    (transaction body).Reaches other ↔ other = body := by
  constructor
  · intro hReaches
    cases hReaches
    rfl
  · rintro rfl
    exact .here other

theorem reaches_query_iff {β : Type} {read : Store → Except Error β} {next : β → Procedure α}
    {body : Script α} : (query read next).Reaches body ↔
      ∃ s found, read s = .ok found ∧ (next found).Reaches body := by
  constructor
  · intro hReaches
    cases hReaches with
    | read hRead hRest => exact ⟨_, _, hRead, hRest⟩
  · rintro ⟨s, found, hRead, hRest⟩
    exact .read hRead hRest

/-- A transaction of a procedure makes one store of the other. -/
def Turns (p : Procedure α) (s : Store) (value : α) (next : Store) : Prop :=
  ∃ body, p.Reaches body ∧ body.result s = .ok (value, next)

end Procedure

/-! ## Executions -/

/-- A write of others, which keeps the primary key of the cards. -/
structure OtherWrite where
  apply : Store → Store
  keyed : ∀ s, s.CardsKeyed → (apply s).CardsKeyed

/-- What can happen while a call is on its way. -/
inductive CallEvent where
  | advance
  /-- The deadline strikes. -/
  | expire
  /-- The database fails the statement at hand, which is not executed then. -/
  | fail (text : String)
  | other (write : OtherWrite)

/-- What an event does to the tables on behalf of others. -/
def CallEvent.byOthers (s : Store) : CallEvent → Store
  | other write => write.apply s
  | advance | expire | fail _ => s

/-- The tables as they would be if others alone had written. -/
def leftByOthers (s : Store) (events : List CallEvent) : Store :=
  events.foldl CallEvent.byOthers s

/-- How far a call has come. -/
inductive CallStage (α : Type) : Type 1 where
  | reading (rest : Procedure α)
  | writing (rest : Script α) (working : Store)
  /-- The COMMIT is handed over to the database, and not executed yet. -/
  | closing (value : α) (working : Store)
  /-- The COMMIT is executed, of which the call has not heard yet. -/
  | closed (value : α)
  /-- The call has returned an error while its COMMIT is still on the way. -/
  | givenUp (e : Error) (working : Store)
  | ended (outcome : Except Error α)

/-- Whether a call waits for its COMMIT. -/
def CallStage.awaitsCommit {α : Type} : CallStage α → Bool
  | closing .. | closed _ => true
  | reading _ | writing .. | givenUp .. | ended _ => false

/-- A call on its way, and the tables as everyone sees them. -/
structure Execution (α : Type) where
  tables : Store
  stage : CallStage α

namespace Execution

variable {α : Type}

/-- A call that has just been received. -/
def start (p : Procedure α) (s : Store) : Execution α :=
  ⟨s, .reading p⟩

/-- Go on with the result of a step; an error ends the call and drops what it worked on. -/
def proceed {β : Type} (m : Execution α) (result : Except Error β) (next : β → CallStage α) : Execution α :=
  match result with
  | .ok found => { m with stage := next found }
  | .error e => { m with stage := .ended (.error e) }

/-- The next step of a call, or of what is left of it. -/
def advance (m : Execution α) : Option (Execution α) :=
  match m.stage with
  | .reading (.query read next) => some (m.proceed (read m.tables) fun found => .reading (next found))
  | .reading (.transaction body) => some { m with stage := .writing body m.tables }
  | .writing (.statement run next) working =>
      some (m.proceed (run working) fun found => .writing (next found.1) found.2)
  | .writing (.done value) working => some { m with stage := .closing value working }
  | .closing value working => some ⟨working, .closed value⟩
  | .closed value => some { m with stage := .ended (.ok value) }
  | .givenUp e working => some ⟨working, .ended (.error e)⟩
  | .ended _ => none

/-- The deadline of a call strikes, which ends it with this error. -/
def expire (e : Error) (m : Execution α) : Option (Execution α) :=
  match m.stage with
  | .reading _ | .writing .. | .closed _ => some { m with stage := .ended (.error e) }
  | .closing _ working => some { m with stage := .givenUp e working }
  | .givenUp .. | .ended _ => none

/-- The database fails what it was asked for last. -/
def fail (text : String) (m : Execution α) : Option (Execution α) :=
  match m.stage with
  | .reading _ | .writing .. | .closing .. => some { m with stage := .ended (.error (.database text)) }
  | .givenUp e _ => some { m with stage := .ended (.error e) }
  | .closed _ | .ended _ => none

/-- Others write, unless a transaction is open or the call is over. -/
def interfere (write : OtherWrite) (m : Execution α) : Option (Execution α) :=
  match m.stage with
  | .reading _ | .closed _ => some { m with tables := write.apply m.tables }
  | .writing .. | .closing .. | .givenUp .. | .ended _ => none

/-- What an event makes of a call, if it can happen. A call without a deadline never expires. -/
def step (deadline : Option Error) (m : Execution α) : CallEvent → Option (Execution α)
  | .advance => m.advance
  | .expire => deadline.bind m.expire
  | .fail text => m.fail text
  | .other write => m.interfere write

/-- A call after a sequence of events, if they can happen in this order. -/
def run (deadline : Option Error) (m : Execution α) (events : List CallEvent) : Option (Execution α) :=
  events.foldlM (step deadline) m

/-- How a call has ended, if it has. -/
def outcome? (m : Execution α) : Option (Except Error α) :=
  match m.stage with
  | .ended outcome => some outcome
  | .reading _ | .writing .. | .closing .. | .closed _ | .givenUp .. => none

/-- The end of a call with a result, which is seen in the tables if it is a success. -/
def conclude (s : Store) : Except Error (α × Store) → Execution α
  | .ok (value, next) => ⟨next, .ended (.ok value)⟩
  | .error e => ⟨s, .ended (.error e)⟩

variable {deadline : Option Error} {m next : Execution α} {p : Procedure α} {s : Store}
  {events : List CallEvent} {event : CallEvent} {value : α} {tables : Store}

theorem run_cons (hStep : step deadline m event = some next) (rest : List CallEvent) :
    run deadline m (event :: rest) = run deadline next rest := by
  unfold run
  rw [List.foldlM_cons, hStep]
  rfl

theorem run_concat : run deadline m (events ++ [event]) =
    (run deadline m events).bind fun reached => step deadline reached event := by
  unfold run
  rw [List.foldlM_append]
  cases events.foldlM (step deadline) m with
  | none => rfl
  | some reached =>
      change (step deadline reached event).bind some = step deadline reached event
      exact Option.bind_fun_some _

theorem exists_ended (result : Option (Execution α)) (test : Store → Except Error α → Bool)
    (hEnds : result.any (fun m => m.outcome?.any (test m.tables)) = true) :
    ∃ tables outcome, result = some ⟨tables, .ended outcome⟩ ∧ test tables outcome = true := by
  obtain ⟨⟨tables, stage⟩, rfl, hOutcome⟩ := (Option.any_eq_true _ _).mp hEnds
  cases stage with
  | ended outcome => exact ⟨tables, outcome, rfl, hOutcome⟩
  | reading | writing | closing | closed | givenUp => cases hOutcome

/-! ## Left alone -/

theorem exists_advances_succ {last : Execution α} (hStep : step deadline m .advance = some next)
    (hRest : ∃ n, run deadline next (List.replicate n .advance) = some last) :
    ∃ n, run deadline m (List.replicate n .advance) = some last := by
  obtain ⟨n, hRun⟩ := hRest
  exact ⟨n + 1, (run_cons hStep _).trans hRun⟩

theorem exists_advances_writing (deadline : Option Error) (rest : Script α) (tables working : Store) :
    ∃ n, run deadline ⟨tables, .writing rest working⟩ (List.replicate n .advance) =
      some (conclude tables (rest.result working)) := by
  induction rest generalizing working with
  | done value => exact ⟨3, rfl⟩
  | statement run next ih =>
      refine exists_advances_succ rfl ?_
      change ∃ n, _ = some (conclude tables (run working >>= fun found => (next found.1).result found.2))
      cases run working with
      | error e => exact ⟨0, rfl⟩
      | ok found => exact ih found.1 found.2

/-- A call that nobody disturbs comes to the result of its procedure. -/
theorem run_alone (deadline : Option Error) (p : Procedure α) (s : Store) :
    ∃ n, run deadline (start p s) (List.replicate n .advance) = some (conclude s (p.result s)) := by
  induction p with
  | transaction body => exact exists_advances_succ rfl (exists_advances_writing deadline body s s)
  | query read next ih =>
      refine exists_advances_succ rfl ?_
      change ∃ n, _ = some (conclude s (read s >>= fun found => (next found).result s))
      cases hRead : read s with
      | error e =>
          rw [start, hRead]
          exact ⟨0, rfl⟩
      | ok found =>
          rw [start, hRead]
          exact ih found

/-! ## Disturbed -/

theorem leftByOthers_concat :
    leftByOthers s (events ++ [event]) = event.byOthers (leftByOthers s events) := by
  unfold leftByOthers
  rw [List.foldl_append]
  rfl

theorem cardsKeyed_leftByOthers (hKeyed : s.CardsKeyed) (events : List CallEvent) :
    (leftByOthers s events).CardsKeyed := by
  induction events using List.reverseRecOn with
  | nil => exact hKeyed
  | append_singleton events event ih =>
      rw [leftByOthers_concat]
      cases event with
      | other write => exact write.keyed _ ih
      | advance | expire | fail => exact ih

/-- Somewhere in the events the deadline has struck while the call was waiting for its COMMIT. -/
def StruckInCommit (deadline : Option Error) (m : Execution α) (events : List CallEvent) : Prop :=
  ∃ before after reached, events = before ++ .expire :: after ∧
    run deadline m before = some reached ∧ reached.stage.awaitsCommit = true

/-- One transaction of the procedure has been executed on what others had left until then, and nobody but
others has written after it. -/
def Committed (p : Procedure α) (s : Store) (events : List CallEvent) (value : α) (tables : Store) : Prop :=
  ∃ before after next, events = before ++ .advance :: after ∧
    p.Turns (leftByOthers s before) value next ∧ tables = leftByOthers next after

theorem StruckInCommit.concat (hStruck : StruckInCommit deadline m events) (event : CallEvent) :
    StruckInCommit deadline m (events ++ [event]) := by
  obtain ⟨before, after, reached, rfl, hReached, hAwaits⟩ := hStruck
  exact ⟨before, after ++ [event], reached, by simp, hReached, hAwaits⟩

/-- A deadline that strikes for the first time, while the call does something else. -/
theorem not_struckInCommit_of_first {reached : Execution α} (hFirst : .expire ∉ events)
    (hReached : run deadline m events = some reached) (hFree : reached.stage.awaitsCommit = false) :
    ¬ StruckInCommit deadline m (events ++ [.expire]) := by
  rintro ⟨before, after, other, hEvents, hOther, hAwaits⟩
  rcases List.eq_nil_or_concat after with rfl | ⟨more, last, rfl⟩
  · obtain rfl := List.append_inj_left' hEvents rfl
    rw [hReached] at hOther
    cases hOther
    rw [hFree] at hAwaits
    cases hAwaits
  · rw [List.concat_eq_append, ← List.cons_append, ← List.append_assoc] at hEvents
    obtain rfl := List.append_inj_left' hEvents rfl
    exact hFirst (List.mem_append_right before List.mem_cons_self)

theorem Committed.concat (hCommitted : Committed p s events value tables) (event : CallEvent) :
    Committed p s (events ++ [event]) value (event.byOthers tables) := by
  obtain ⟨before, after, next, rfl, hTurns, rfl⟩ := hCommitted
  exact ⟨before, after ++ [event], next, by simp, hTurns, leftByOthers_concat.symm⟩

/-- What is known of a call after some events. -/
def Accounted (deadline : Option Error) (p : Procedure α) (s : Store) (events : List CallEvent)
    (m : Execution α) : Prop :=
  match m.stage with
  | .reading rest => m.tables = leftByOthers s events ∧ ∀ body, rest.Reaches body → p.Reaches body
  | .writing rest working => m.tables = leftByOthers s events ∧
      ∃ body, p.Reaches body ∧ body.result m.tables = rest.result working
  | .closing value working => m.tables = leftByOthers s events ∧ p.Turns m.tables value working
  | .closed value => Committed p s events value m.tables
  | .givenUp e working => m.tables = leftByOthers s events ∧ (∃ value, p.Turns m.tables value working) ∧
      deadline = some e ∧ StruckInCommit deadline (start p s) events
  | .ended (.ok value) => Committed p s events value m.tables
  | .ended (.error e) => m.tables = leftByOthers s events ∨
      deadline = some e ∧ StruckInCommit deadline (start p s) events ∧
        ∃ value, Committed p s events value m.tables

theorem accounted_start : Accounted deadline p s [] (start p s) :=
  ⟨rfl, fun _ hReaches => hReaches⟩

theorem accounted_advance (hState : Accounted deadline p s events m) (hStep : m.advance = some next) :
    Accounted deadline p s (events ++ [.advance]) next := by
  obtain ⟨seen, stage⟩ := m
  have hOthers : leftByOthers s (events ++ [.advance]) = leftByOthers s events := leftByOthers_concat
  cases stage with
  | reading rest =>
      obtain ⟨hTables, hReaches⟩ := hState
      cases rest with
      | transaction body =>
          cases hStep
          exact ⟨hTables.trans hOthers.symm, body, hReaches body (.here body), rfl⟩
      | query read rest =>
          cases hStep
          dsimp only
          cases hRead : read seen with
          | error e => exact .inl (hTables.trans hOthers.symm)
          | ok found =>
              exact ⟨hTables.trans hOthers.symm, fun body hBody => hReaches body (.read hRead hBody)⟩
  | writing rest working =>
      obtain ⟨hTables, body, hReaches, hResult⟩ := hState
      cases rest with
      | done value =>
          cases hStep
          exact ⟨hTables.trans hOthers.symm, body, hReaches, hResult⟩
      | statement run rest =>
          cases hStep
          cases hRun : run working with
          | error e => exact .inl (hTables.trans hOthers.symm)
          | ok found =>
              refine ⟨hTables.trans hOthers.symm, body, hReaches, hResult.trans ?_⟩
              change (run working >>= _) = _
              rw [hRun]
              rfl
  | closing value working =>
      -- the one step that others see
      obtain ⟨hTables, hTurns⟩ := hState
      cases hStep
      exact ⟨events, [], working, rfl, hTables ▸ hTurns, rfl⟩
  | closed value =>
      cases hStep
      exact hState.concat .advance
  | givenUp e working =>
      obtain ⟨hTables, ⟨value, hTurns⟩, hDeadline, hStruck⟩ := hState
      cases hStep
      exact .inr ⟨hDeadline, hStruck.concat .advance, value, events, [], working, rfl, hTables ▸ hTurns, rfl⟩
  | ended outcome => cases hStep

theorem accounted_expire {e : Error} (hReached : run deadline (start p s) events = some m)
    (hState : Accounted deadline p s events m) (hDeadline : deadline = some e)
    (hStep : m.expire e = some next) : Accounted deadline p s (events ++ [.expire]) next := by
  obtain ⟨seen, stage⟩ := m
  have hOthers : leftByOthers s (events ++ [.expire]) = leftByOthers s events := leftByOthers_concat
  have hStruck : stage.awaitsCommit = true → StruckInCommit deadline (start p s) (events ++ [.expire]) :=
    fun hAwaits => ⟨events, [], _, rfl, hReached, hAwaits⟩
  cases stage with
  | reading rest =>
      cases hStep
      exact .inl (hState.1.trans hOthers.symm)
  | writing rest working =>
      cases hStep
      exact .inl (hState.1.trans hOthers.symm)
  | closing value working =>
      cases hStep
      exact ⟨hState.1.trans hOthers.symm, ⟨value, hState.2⟩, hDeadline, hStruck rfl⟩
  | closed value =>
      cases hStep
      exact .inr ⟨hDeadline, hStruck rfl, value, hState.concat .expire⟩
  | givenUp => cases hStep
  | ended => cases hStep

theorem accounted_fail {text : String} (hState : Accounted deadline p s events m)
    (hStep : m.fail text = some next) : Accounted deadline p s (events ++ [.fail text]) next := by
  obtain ⟨seen, stage⟩ := m
  have hOthers : leftByOthers s (events ++ [.fail text]) = leftByOthers s events := leftByOthers_concat
  cases stage with
  | reading | writing | closing | givenUp =>
      cases hStep
      exact .inl (hState.1.trans hOthers.symm)
  | closed | ended => cases hStep

theorem accounted_interfere {write : OtherWrite} (hState : Accounted deadline p s events m)
    (hStep : m.interfere write = some next) :
    Accounted deadline p s (events ++ [.other write]) next := by
  obtain ⟨seen, stage⟩ := m
  have hOthers : leftByOthers s (events ++ [.other write]) = write.apply (leftByOthers s events) :=
    leftByOthers_concat
  cases stage with
  | reading rest =>
      cases hStep
      refine ⟨?_, hState.2⟩
      rw [hOthers]
      exact congrArg write.apply hState.1
  | closed value =>
      cases hStep
      exact hState.concat (.other write)
  | writing | closing | givenUp | ended => cases hStep

theorem accounted_step (hReached : run deadline (start p s) events = some m)
    (hState : Accounted deadline p s events m) (hStep : step deadline m event = some next) :
    Accounted deadline p s (events ++ [event]) next := by
  cases event with
  | advance => exact accounted_advance hState hStep
  | expire =>
      obtain ⟨e, hDeadline, hExpire⟩ := Option.bind_eq_some_iff.mp hStep
      exact accounted_expire hReached hState hDeadline hExpire
  | fail text => exact accounted_fail hState hStep
  | other write => exact accounted_interfere hState hStep

theorem accounted_run (hRun : run deadline (start p s) events = some m) :
    Accounted deadline p s events m := by
  -- the last event comes first, as the invariant speaks of all events up to now
  induction events using List.reverseRecOn generalizing m with
  | nil =>
      cases hRun
      exact accounted_start
  | append_singleton events event ih =>
      rw [run_concat] at hRun
      obtain ⟨reached, hReached, hStep⟩ := Option.bind_eq_some_iff.mp hRun
      exact accounted_step hReached (ih hReached) hStep

/-- However a call is disturbed, it leaves all of its transaction or nothing. If it ends well the
transaction has been executed. If it ends with an error the tables are those that others have left, or the
deadline has struck while the call was waiting for its COMMIT. -/
theorem all_or_nothing {outcome : Except Error α}
    (hRun : run deadline (start p s) events = some ⟨tables, .ended outcome⟩) :
    match outcome with
    | .ok value => Committed p s events value tables
    | .error e => tables = leftByOthers s events ∨
        deadline = some e ∧ StruckInCommit deadline (start p s) events ∧
          ∃ value, Committed p s events value tables := by
  have hEnd := accounted_run hRun
  cases outcome with
  | ok value => exact hEnd
  | error e => exact hEnd

/-- A call without a deadline that ends with an error leaves the tables to the others. -/
theorem tables_of_error {e : Error}
    (hRun : run none (start p s) events = some ⟨tables, .ended (.error e)⟩) :
    tables = leftByOthers s events :=
  (all_or_nothing hRun).resolve_right fun hLate => nomatch hLate.1

end Execution

end CardLedger
