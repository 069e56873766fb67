import NamedSql.Proofs.Call

/-!
# Failures of the cleanup

Two connections which answer alike, except that other operations of the cleanup may fail, are
asked for the same operations, and nobody can tell from an outcome which of them was used.
-/

namespace NamedSql

open Exchange (calls)

variable {σ τ : Type} {first : Backend σ} {second : Backend τ} {related : σ → τ → Prop}

/-- Two backends answer operations alike from related states on, whatever each of them answers to
the operations of the cleanup, and however often each of them suspends an operation. -/
def Backend.AgreeOutsideCleanup (first : Backend σ) (second : Backend τ)
    (related : σ → τ → Prop) : Prop :=
  ∀ {operation state other answer otherAnswer after otherAfter}, related state other →
    first.Performs operation 0 state answer after →
    second.Performs operation 0 other otherAnswer otherAfter →
    related after otherAfter ∧ (operation.isCleanup = false → answer = otherAnswer)

/-- Two records show the same calls of operations, and the states are related. -/
def Backend.InStep (related : σ → τ → Prop) (state : σ × List Exchange)
    (other : τ × List Exchange) : Prop :=
  related state.1 other.1 ∧ calls state.2 = calls other.2

variable (agree : first.AgreeOutsideCleanup second related)

include agree

/-- An operation which both backends answer is called by both. -/
theorem Backend.InStep.performs {operation : Operation}
    {answer otherAnswer : Except Error operation.Answer} {state after : σ × List Exchange}
    {other otherAfter : τ × List Exchange} (inStep : InStep related state other)
    (performs : first.recording.Performs operation 0 state answer after)
    (otherPerforms : second.recording.Performs operation 0 other otherAnswer otherAfter) :
    InStep related after otherAfter ∧ (operation.isCleanup = false → answer = otherAnswer) := by
  obtain ⟨performed, called, -⟩ := performs.of_recording
  obtain ⟨otherPerformed, otherCalled, -⟩ := otherPerforms.of_recording
  obtain ⟨relatedAfter, same⟩ := agree inStep.1 performed otherPerformed
  refine ⟨⟨relatedAfter, ?_⟩, same⟩
  rw [called, otherCalled, inStep.2]

namespace Transaction

/-- Two runs from the same phase with the same books end with the same books. -/
theorem ends_inStep {phase : Phase} {t u v w : Transaction} {state after : σ × List Exchange}
    {other otherAfter : τ × List Exchange} (same : t.books = u.books)
    (inStep : Backend.InStep related state other)
    (ends : Ends first.recording { phase := phase } t state v after)
    (otherEnds : Ends second.recording { phase := phase } u other w otherAfter) :
    Backend.InStep related after otherAfter ∧ v.books = w.books := by
  obtain ⟨answer, between, performs, next, t', resumed, rest⟩ := ends.cases_answer
  obtain ⟨otherAnswer, middle, otherPerforms, otherNext, u', otherResumed, otherRest⟩ :=
    otherEnds.cases_answer
  obtain ⟨inStep, alike⟩ := inStep.performs agree performs otherPerforms
  have noted : (t.note [.performed phase.operation (failure? answer)]).books =
      (u.note [.performed phase.operation (failure? otherAnswer)]).books := by
    rw [books_performed, books_performed, same]
  have resumedAlike := resume_congr noted alike (first.elapsed phase.operation)
    (second.elapsed phase.operation)
  rw [show first.recording.elapsed = first.elapsed from rfl] at resumed
  rw [show second.recording.elapsed = second.elapsed from rfl] at otherResumed
  rw [resumed, otherResumed] at resumedAlike
  obtain ⟨rfl, same⟩ := resumedAlike
  cases next with
  | none =>
      obtain ⟨rfl, rfl⟩ := rest
      obtain ⟨rfl, rfl⟩ := otherRest
      exact ⟨inStep, same⟩
  | some next =>
      have := remaining_lt_of_resume resumed
      exact ends_inStep same inStep rest otherRest
termination_by phase.remaining

/-- Two executions of one transaction complete alike. -/
theorem completes_inStep {t u v : Transaction} {state after : σ × List Exchange}
    {other otherAfter : τ × List Exchange} {result otherResult : Except Error Unit}
    (inStep : Backend.InStep related state other)
    (completes : Completes first.recording .unstarted t state result u after)
    (otherCompletes : Completes second.recording .unstarted t other otherResult v otherAfter) :
    Backend.InStep related after otherAfter ∧ result = otherResult ∧ u.books = v.books := by
  rcases begun : t.begin with ⟨⟨phase, suspended⟩ | result, t'⟩
  · obtain rfl : suspended = 0 := suspended_of_begin begun
    obtain ⟨rfl, ends⟩ := (completes_iff_of_begun begun).mp completes
    obtain ⟨rfl, otherEnds⟩ := (completes_iff_of_begun begun).mp otherCompletes
    obtain ⟨inStep, same⟩ := ends_inStep agree rfl inStep ends otherEnds
    exact ⟨inStep, rfl, same⟩
  · obtain ⟨rfl, rfl, rfl⟩ := (completes_iff_of_finished begun).mp completes
    obtain ⟨rfl, rfl, rfl⟩ := (completes_iff_of_finished begun).mp otherCompletes
    exact ⟨inStep, rfl, rfl⟩

end Transaction

/-- Two executions of one call complete alike. -/
theorem Call.completes_inStep {call : Call} {state after : σ × List Exchange}
    {other otherAfter : τ × List Exchange} {result otherResult : Except Error Output}
    (inStep : Backend.InStep related state other)
    (completes : Completes first.recording (.unstarted call) state result after)
    (otherCompletes : Completes second.recording (.unstarted call) other otherResult otherAfter) :
    Backend.InStep related after otherAfter ∧ result = otherResult := by
  have conducts := completes_iff_conducts.mp completes
  have otherConducts := completes_iff_conducts.mp otherCompletes
  cases conducts with
  | unbound failed =>
      cases otherConducts with
      | unbound again =>
          cases failed.symm.trans again
          exact ⟨inStep, rfl⟩
      | unacquired bound _ => cases failed.symm.trans bound
      | executed bound _ _ _ _ => cases failed.symm.trans bound
  | unacquired bound acquired =>
      cases otherConducts with
      | unbound failed => cases bound.symm.trans failed
      | unacquired _ again =>
          obtain ⟨inStep, same⟩ := inStep.performs agree acquired again
          cases same rfl
          exact ⟨inStep, rfl⟩
      | executed _ again _ _ _ => cases (inStep.performs agree acquired again).2 rfl
  | @executed statement _ _ _ _ _ _ _ _ bound acquired executed restored closed =>
      cases otherConducts with
      | unbound failed => cases bound.symm.trans failed
      | unacquired _ again => cases (inStep.performs agree acquired again).2 rfl
      | executed again otherAcquired otherExecuted otherRestored otherClosed =>
          cases bound.symm.trans again
          obtain ⟨inStep, -⟩ := inStep.performs agree acquired otherAcquired
          obtain ⟨inStep, same⟩ := inStep.performs agree executed otherExecuted
          obtain ⟨inStep, -⟩ := inStep.performs agree restored otherRestored
          obtain ⟨inStep, -⟩ := inStep.performs agree closed otherClosed
          rw [same (isCleanup_operation statement)]
          exact ⟨inStep, rfl⟩

omit agree

/-- What is asked of a connection to execute a statement by itself, if acquiring the connection is
answered in the given way. -/
def Statement.operations (statement : Statement) (acquired : Except Error Unit) : List Operation :=
  .acquire ::
    match acquired with
    | .error _ => []
    | .ok () => [statement.operation, .autoCommit true, .close]

/-- Nothing is asked for a call which could not be bound, and for any other call there is a
complete sequence of operations. -/
theorem Call.Completes.calls_eq {call : Call} {state : σ} {after : σ × List Exchange}
    {result : Except Error Output}
    (completes : Completes first.recording (.unstarted call) (state, []) result after) :
    (∀ error, call.statement = .error error → calls after.2 = [] ∧ result = .error error) ∧
      ∀ statement, call.statement = .ok statement → ∃ acquired between,
        first.Performs .acquire 0 state acquired between ∧
          calls after.2 = statement.operations acquired := by
  cases completes_iff_conducts.mp completes with
  | unbound failed =>
      constructor
      · intro error again
        cases failed.symm.trans again
        exact ⟨rfl, rfl⟩
      · intro statement bound
        cases failed.symm.trans bound
  | unacquired bound refused =>
      obtain ⟨performed, called, -⟩ := refused.of_recording
      constructor
      · intro error failed
        cases bound.symm.trans failed
      · exact fun _ _ => ⟨_, _, performed, called⟩
  | executed bound opened executed restored closed =>
      obtain ⟨performed, called, -⟩ := opened.of_recording
      obtain ⟨-, executed, -⟩ := executed.of_recording
      obtain ⟨-, restored, -⟩ := restored.of_recording
      obtain ⟨-, closed, -⟩ := closed.of_recording
      constructor
      · intro error failed
        cases bound.symm.trans failed
      · intro statement again
        cases bound.symm.trans again
        refine ⟨_, _, performed, ?_⟩
        rw [closed, restored, executed, called]
        rfl

/-- Failures of the cleanup never mask an outcome.  If two connections answer alike except to the
operations of the cleanup, then the executions of a transaction over them, which complete if all
operations are answered at some time, ask for the same operations in the same order and come to
the same state, after they told the sinks and the failure callback the same.  The executions of a
call ask for the same operations and have the same result.  These operations are none if the call
was not bound, and else its statement between acquiring the connection, unless that fails, and
the whole release, be the statement executed with success or not. -/
theorem outcomes_unmasked (first : Backend σ) (second : Backend τ)
    (agree : first.AgreeOutsideCleanup second related) {state : σ} {other : τ}
    (alike : related state other) :
    (∀ t : Transaction,
      (first.Responsive → ∃ result u after,
        t.Completes first.recording .unstarted (state, []) result u after) ∧
      (second.Responsive → ∃ result u after,
        t.Completes second.recording .unstarted (other, []) result u after) ∧
      ∀ result u after otherResult v otherAfter,
        t.Completes first.recording .unstarted (state, []) result u after →
        t.Completes second.recording .unstarted (other, []) otherResult v otherAfter →
        calls after.2 = calls otherAfter.2 ∧ result = otherResult ∧ u.state = v.state ∧
          u.notices = v.notices ∧ u.ledger = v.ledger) ∧
    ∀ call : Call,
      (first.Responsive → ∃ result after,
        Call.Completes first.recording (.unstarted call) (state, []) result after) ∧
      (second.Responsive → ∃ result after,
        Call.Completes second.recording (.unstarted call) (other, []) result after) ∧
      ∀ result after otherResult otherAfter,
        Call.Completes first.recording (.unstarted call) (state, []) result after →
        Call.Completes second.recording (.unstarted call) (other, []) otherResult otherAfter →
        calls after.2 = calls otherAfter.2 ∧ result = otherResult ∧
          (∀ error, call.statement = .error error → calls after.2 = [] ∧ result = .error error) ∧
          ∀ statement, call.statement = .ok statement → ∃ acquired between,
            first.Performs .acquire 0 state acquired between ∧
              calls after.2 = statement.operations acquired := by
  have inStep : Backend.InStep related (state, []) (other, []) := ⟨alike, rfl⟩
  constructor
  · intro t
    refine ⟨fun responsive => Transaction.exists_completes responsive.recording t _,
      fun responsive => Transaction.exists_completes responsive.recording t _, ?_⟩
    intro result u after otherResult v otherAfter completes otherCompletes
    obtain ⟨⟨-, called⟩, returned, books⟩ :=
      Transaction.completes_inStep agree inStep completes otherCompletes
    have ledger : u.ledger = v.ledger := congrArg Prod.fst books
    exact ⟨called, returned, congrArg Ledger.state ledger, congrArg Ledger.notices ledger, ledger⟩
  · intro call
    refine ⟨fun responsive => Call.exists_completes responsive.recording call _,
      fun responsive => Call.exists_completes responsive.recording call _, ?_⟩
    intro result after otherResult otherAfter completes otherCompletes
    obtain ⟨⟨-, called⟩, returned⟩ := Call.completes_inStep agree inStep completes otherCompletes
    exact ⟨called, returned, completes.calls_eq⟩

/-- Backends which fail at other operations of the cleanup agree outside of it. -/
theorem agree_failing {fails others : Operation → Bool}
    (same : ∀ operation, operation.isCleanup = false → fails operation = others operation) :
    (Backend.failing fails).AgreeOutsideCleanup (Backend.failing others) fun _ _ => True := by
  intro operation _ _ answer otherAnswer _ _ _ performs otherPerforms
  cases performs with
  | suspended polled _ => cases polled
  | answered polled =>
      cases otherPerforms with
      | suspended otherPolled _ => cases otherPolled
      | answered otherPolled =>
          cases polled
          cases otherPolled
          exact ⟨trivial, fun other => by rw [same operation other]⟩

/-- An update fails over two connections, of which one cannot be cleaned up either. -/
theorem unmasked_of_failed_update :
    let update : Statement := ⟨"a", .update, ⟨"a", []⟩, []⟩
    let first := Backend.failing fun operation => operation = .update "a" []
    let second := Backend.failing fun operation =>
      operation = .update "a" [] ∨ operation.isCleanup
    let t : Transaction :=
      { expected := 1, slowQueryThreshold := ⟨0⟩
        members := [{ statement := .ok update, sink := .recorder "x" false }] }
    first.AgreeOutsideCleanup second (fun _ _ => True) ∧
      (∃ result u after otherResult v otherAfter,
        t.Completes first.recording .unstarted ((), []) result u after ∧
        t.Completes second.recording .unstarted ((), []) otherResult v otherAfter ∧
        calls after.2 = calls otherAfter.2 ∧ u.state = v.state ∧ u.notices = v.notices) ∧
      ∃ result after otherAfter,
        Call.Completes first.recording (.unstarted ⟨.ok update, ⟨0⟩⟩) ((), []) result after ∧
        Call.Completes second.recording (.unstarted ⟨.ok update, ⟨0⟩⟩) ((), []) result
          otherAfter ∧
        calls after.2 = [.acquire, .update "a" [], .autoCommit true, .close] ∧
        calls otherAfter.2 = calls after.2 := by
  intro update first second t
  have agree : first.AgreeOutsideCleanup second fun _ _ => True :=
    agree_failing fun operation other => by simp [other]
  obtain ⟨transactions, executions⟩ :=
    outcomes_unmasked first second agree (trivial : (fun _ _ : Unit => True) () ())
  obtain ⟨completes, otherCompletes, alike⟩ := transactions t
  obtain ⟨result, u, after, completed⟩ := completes (Backend.prompt_failing _).responsive
  obtain ⟨otherResult, v, otherAfter, otherCompleted⟩ :=
    otherCompletes (Backend.prompt_failing _).responsive
  obtain ⟨called, -, state, notices, -⟩ := alike _ _ _ _ _ _ completed otherCompleted
  refine ⟨agree, ⟨result, u, after, otherResult, v, otherAfter, completed, otherCompleted, called,
    state, notices⟩, ?_⟩
  obtain ⟨completes, otherCompletes, alike⟩ := executions ⟨.ok update, ⟨0⟩⟩
  obtain ⟨result, after, completed⟩ := completes (Backend.prompt_failing _).responsive
  obtain ⟨_, otherAfter, otherCompleted⟩ := otherCompletes (Backend.prompt_failing _).responsive
  obtain ⟨called, rfl, -, operations⟩ := alike _ _ _ _ completed otherCompleted
  obtain ⟨acquired, between, acquires, issued⟩ := operations update rfl
  cases acquires with
  | suspended polled _ => cases polled
  | answered polled =>
      cases polled
      exact ⟨result, after, otherAfter, completed, otherCompleted, issued, called.symm⟩

end NamedSql
