import NamedSql.Call
import NamedSql.Proofs.Transaction.Completion

/-!
# Calls which are executed by themselves

A call which could not be bound asks nothing of a connection.  Any other call executes its one
statement over a connection of its own, and cleans up after it whatever came of it.
-/

namespace NamedSql.Call

open Exchange (calls)

variable {σ : Type} {backend : Backend σ} {state between after : σ}

/-- The execution of a call is polled until it finishes. -/
inductive Completes (backend : Backend σ) :
    Execution → σ → Except Error Output → σ → Prop where
  | finished {execution : Execution} {state after : σ} {result : Except Error Output}
      {events : List Event}
      (executed : execute backend execution state = (.inr result, events, after)) :
      Completes backend execution state result after
  | suspended {execution later : Execution} {state middle after : σ}
      {result : Except Error Output} {events : List Event}
      (executed : execute backend execution state = (.inl later, events, middle))
      (completes : Completes backend later middle result after) :
      Completes backend execution state result after

/-- What becomes of a call: its statement was not bound, or no connection could be acquired, or
the statement was executed and the connection was released, whatever was answered to that. -/
inductive Conducts (backend : Backend σ) (call : Call) : σ → Except Error Output → σ → Prop where
  | unbound {error : Error} {state : σ} (failed : call.statement = .error error) :
      Conducts backend call state (.error error) state
  | unacquired {statement : Statement} {error : Error} {state after : σ}
      (bound : call.statement = .ok statement)
      (acquired : backend.Performs .acquire 0 state (.error error) after) :
      Conducts backend call state (.error error) after
  | executed {statement : Statement} {answer : Except Error statement.operation.Answer}
      {restore close : Except Error Unit} {state first second third after : σ}
      (bound : call.statement = .ok statement)
      (acquired : backend.Performs .acquire 0 state (.ok ()) first)
      (executed : backend.Performs statement.operation 0 first answer second)
      (restored : backend.Performs (.autoCommit true) 0 second restore third)
      (closed : backend.Performs .close 0 third close after) :
      Conducts backend call state (answer.map (outputOf statement)) after

/-! ## One answer -/

variable {statement : Statement} {threshold : Duration} {phase : Phase} {suspended : Nat}
  {result : Except Error Output}

theorem completes_congr {first second : Execution}
    (same : (execute backend first state).1 = (execute backend second between).1)
    (sameState : (execute backend first state).2.2 = (execute backend second between).2.2) :
    Completes backend first state result after ↔ Completes backend second between result after := by
  generalize left : execute backend first state = x at same sameState
  generalize right : execute backend second between = y at same sameState
  obtain ⟨progress, events, next⟩ := x
  obtain ⟨_, others, _⟩ := y
  obtain rfl := same
  obtain rfl := sameState
  constructor
  · intro completes
    cases completes with
    | finished executed =>
        cases left.symm.trans executed
        exact .finished right
    | suspended executed later =>
        cases left.symm.trans executed
        exact .suspended right later
  · intro completes
    cases completes with
    | finished executed =>
        cases right.symm.trans executed
        exact .finished left
    | suspended executed later =>
        cases right.symm.trans executed
        exact .suspended left later

theorem execute_of_suspended
    (polled : backend.poll (phase.operation statement) suspended state = (none, between)) :
    execute backend (.running ⟨statement, phase, suspended⟩ threshold) state =
      (.inl (.running ⟨statement, phase, suspended + 1⟩ threshold), [], between) := by
  rw [execute, carryOn, drive, polled]

theorem completes_iff_of_suspended
    (polled : backend.poll (phase.operation statement) suspended state = (none, between)) :
    Completes backend (.running ⟨statement, phase, suspended⟩ threshold) state result after ↔
      Completes backend (.running ⟨statement, phase, suspended + 1⟩ threshold) between result
        after := by
  have executed : execute backend (.running ⟨statement, phase, suspended⟩ threshold) state = _ :=
    execute_of_suspended polled
  constructor
  · intro completes
    cases completes with
    | finished other => cases executed.symm.trans other
    | suspended other later =>
        cases executed.symm.trans other
        exact later
  · exact .suspended executed

/-- An answer takes the call to the next phase, and this one is carried on. -/
theorem execute_of_answered {answer : Except Error (phase.operation statement).Answer}
    {next : Phase} {events : List Event}
    (polled : backend.poll (phase.operation statement) suspended state = (some answer, between))
    (resumed : resume threshold (backend.elapsed (phase.operation statement)) statement phase
      answer = (.inl next, events)) :
    let others := execute backend (.running ⟨statement, next, 0⟩ threshold) between
    execute backend (.running ⟨statement, phase, suspended⟩ threshold) state =
      (others.1, .performed (phase.operation statement) (failure? answer) :: events ++ others.2.1,
        others.2.2) := by
  have driven : drive backend threshold ⟨statement, phase, suspended⟩ state =
      let others := drive backend threshold ⟨statement, next, 0⟩ between
      (others.1, .performed (phase.operation statement) (failure? answer) :: events ++ others.2.1,
        others.2.2) := by
    rw [drive, polled]
    dsimp only
    split
    next ended => cases resumed.symm.trans ended
    next goesOn =>
        cases resumed.symm.trans goesOn
        rfl
  simp only [execute, carryOn, driven]
  rcases drive backend threshold ⟨statement, next, 0⟩ between with ⟨_ | _, later, last⟩
  · rfl
  · simp

/-- However often an operation is suspended, its answer takes the call to the next phase. -/
theorem completes_iff_of_performs {answer : Except Error (phase.operation statement).Answer}
    {next : Phase} {events : List Event}
    (performed : backend.Performs (phase.operation statement) suspended state answer between)
    (resumed : resume threshold (backend.elapsed (phase.operation statement)) statement phase
      answer = (.inl next, events)) :
    Completes backend (.running ⟨statement, phase, suspended⟩ threshold) state result after ↔
      Completes backend (.running ⟨statement, next, 0⟩ threshold) between result after := by
  induction performed with
  | answered polled =>
      have executed := execute_of_answered polled resumed
      exact completes_congr (by rw [executed]) (by rw [executed])
  | suspended polled _ inductionHypothesis =>
      exact (completes_iff_of_suspended polled).trans (inductionHypothesis resumed)

/-- However often an operation is suspended, the last answer finishes the call. -/
theorem completes_iff_of_last {answer : Except Error (phase.operation statement).Answer}
    {other : Except Error Output} {events : List Event}
    (performed : backend.Performs (phase.operation statement) suspended state answer between)
    (resumed : resume threshold (backend.elapsed (phase.operation statement)) statement phase
      answer = (.inr other, events)) :
    Completes backend (.running ⟨statement, phase, suspended⟩ threshold) state result after ↔
      result = other ∧ after = between := by
  induction performed with
  | @answered suspended state between answer polled =>
      have driven : drive backend threshold ⟨statement, phase, suspended⟩ state =
          (.inr other, .performed (phase.operation statement) (failure? answer) :: events,
            between) := by
        rw [drive, polled]
        dsimp only
        split
        next ended =>
            cases resumed.symm.trans ended
            rfl
        next goesOn => cases resumed.symm.trans goesOn
      have executed : execute backend (.running ⟨statement, phase, suspended⟩ threshold) state =
          (.inr other, .performed (phase.operation statement) (failure? answer) :: events ++
            returnLog other, between) := by
        simp only [execute, carryOn, driven, List.cons_append]
      constructor
      · intro completes
        cases completes with
        | finished again =>
            cases executed.symm.trans again
            exact ⟨rfl, rfl⟩
        | suspended again _ => cases executed.symm.trans again
      · rintro ⟨rfl, rfl⟩
        exact .finished executed
  | suspended polled _ inductionHypothesis =>
      exact (completes_iff_of_suspended polled).trans (inductionHypothesis resumed)

/-- A call which completes has performed the operation it waited for. -/
theorem Completes.performs
    (completes : Completes backend (.running ⟨statement, phase, suspended⟩ threshold) state result
      after) :
    ∃ answer between,
      backend.Performs (phase.operation statement) suspended state answer between := by
  generalize held : Execution.running ⟨statement, phase, suspended⟩ threshold = execution
    at completes
  induction completes generalizing suspended with
  | finished executed =>
      subst held
      rcases polled : backend.poll (phase.operation statement) suspended _ with ⟨_ | answer, next⟩
      · cases (execute_of_suspended polled).symm.trans executed
      · exact ⟨answer, next, .answered polled⟩
  | suspended executed _ inductionHypothesis =>
      subst held
      rcases polled : backend.poll (phase.operation statement) suspended _ with ⟨_ | answer, next⟩
      · cases (execute_of_suspended polled).symm.trans executed
        obtain ⟨answer, between, performed⟩ := inductionHypothesis rfl
        exact ⟨answer, between, .suspended polled performed⟩
      · exact ⟨answer, next, .answered polled⟩

/-! ## The whole call -/

variable {call : Call}

/-- A call for which a connection was acquired is conducted to its end. -/
theorem completes_execute_iff :
    Completes backend (.running ⟨statement, .execute, 0⟩ threshold) state result after ↔
      ∃ (answer : Except Error statement.operation.Answer) (restore close : Except Error Unit)
        (second third : σ), backend.Performs statement.operation 0 state answer second ∧
        backend.Performs (.autoCommit true) 0 second restore third ∧
        backend.Performs .close 0 third close after ∧ result = answer.map (outputOf statement) := by
  have resumed (answer : Except Error statement.operation.Answer) : ∃ events,
      resume threshold (backend.elapsed statement.operation) statement .execute answer =
        (.inl (.restore (answer.map (outputOf statement))), events) := by
    cases answer <;> exact ⟨_, rfl⟩
  constructor
  · intro completes
    obtain ⟨answer, second, performed⟩ := completes.performs
    obtain ⟨_, goesOn⟩ := resumed answer
    have restores := (completes_iff_of_performs performed goesOn).mp completes
    obtain ⟨restore, third, restored⟩ := restores.performs
    have closes := (completes_iff_of_performs restored rfl).mp restores
    obtain ⟨close, last, closed⟩ := closes.performs
    obtain ⟨rfl, rfl⟩ := (completes_iff_of_last closed rfl).mp closes
    exact ⟨answer, restore, close, second, third, performed, restored, closed, rfl⟩
  · rintro ⟨answer, restore, close, second, third, performed, restored, closed, rfl⟩
    obtain ⟨_, goesOn⟩ := resumed answer
    rw [completes_iff_of_performs performed goesOn, completes_iff_of_performs restored rfl,
      completes_iff_of_last closed rfl]
    exact ⟨rfl, rfl⟩

/-- To poll a call until it finishes is to conduct it. -/
theorem completes_iff_conducts :
    Completes backend (.unstarted call) state result after ↔
      Conducts backend call state result after := by
  cases bound : call.statement with
  | error error =>
      have executed : execute backend (.unstarted call) state =
          (.inr (.error error), returnLog (.error error), state) := by
        simp only [execute, bound]
      constructor
      · intro completes
        cases completes with
        | finished again =>
            cases executed.symm.trans again
            exact .unbound bound
        | suspended again _ => cases executed.symm.trans again
      · intro conducts
        cases conducts with
        | unbound failed =>
            cases bound.symm.trans failed
            exact .finished executed
        | unacquired other _ => cases bound.symm.trans other
        | executed other _ _ _ _ => cases bound.symm.trans other
  | ok statement =>
      have begun : Completes backend (.unstarted call) state result after ↔ Completes backend
          (.running ⟨statement, .acquire, 0⟩ call.slowQueryThreshold) state result after :=
        completes_congr (by simp only [execute, bound]) (by simp only [execute, bound])
      rw [begun]
      constructor
      · intro completes
        obtain ⟨acquired, first, performed⟩ := completes.performs
        cases acquired with
        | error error =>
            obtain ⟨rfl, rfl⟩ := (completes_iff_of_last performed rfl).mp completes
            exact .unacquired bound performed
        | ok _ =>
            have executes := (completes_iff_of_performs performed rfl).mp completes
            obtain ⟨answer, restore, close, second, third, executed, restored, closed, rfl⟩ :=
              completes_execute_iff.mp executes
            exact .executed bound performed executed restored closed
      · intro conducts
        cases conducts with
        | unbound failed => cases bound.symm.trans failed
        | unacquired other acquired =>
            cases bound.symm.trans other
            exact (completes_iff_of_last acquired rfl).mpr ⟨rfl, rfl⟩
        | executed other acquired executed restored closed =>
            cases bound.symm.trans other
            rw [completes_iff_of_performs acquired rfl, completes_execute_iff]
            exact ⟨_, _, _, _, _, executed, restored, closed, rfl⟩

/-- Every call completes if every operation is answered at some time. -/
theorem exists_completes (responsive : backend.Responsive) (call : Call) (state : σ) :
    ∃ result after, Completes backend (.unstarted call) state result after := by
  simp only [completes_iff_conducts]
  cases bound : call.statement with
  | error error => exact ⟨_, state, .unbound bound⟩
  | ok statement =>
      obtain ⟨acquired, first, performed⟩ := responsive .acquire state
      cases acquired with
      | error error => exact ⟨_, first, .unacquired bound performed⟩
      | ok _ =>
          obtain ⟨answer, second, executed⟩ := responsive statement.operation first
          obtain ⟨_, third, restored⟩ := responsive (.autoCommit true) second
          obtain ⟨_, last, closed⟩ := responsive .close third
          exact ⟨_, last, .executed bound performed executed restored closed⟩

end NamedSql.Call
