import NamedSql.Transaction.Participation

/-!
# Calls

A call is a statement which was bound but not executed yet.  It is executed by
itself over a connection of its own, or joined with others into a transaction.
-/

namespace NamedSql

/-- A call of a method. -/
structure Call where
  statement : Except Error Statement
  /-- Statements which take longer than this are logged as slow. -/
  slowQueryThreshold : Duration

/-- A stage of the execution of a call, waiting for the answer to one
operation. -/
inductive Call.Phase where
  | acquire
  | execute
  /-- Switch automatic commits on. -/
  | restore (result : Except Error Output)
  | close (result : Except Error Output)

/-- The operation whose answer a phase waits for. -/
def Call.Phase.operation (statement : Statement) : Call.Phase → Operation
  | .acquire => .acquire
  | .execute => statement.operation
  | .restore _ => .autoCommit true
  | .close _ => .close

/-- An upper bound on the number of operations from a phase on. -/
def Call.Phase.remaining : Call.Phase → Nat
  | .acquire => 4
  | .execute => 3
  | .restore _ => 2
  | .close _ => 1

/-- A call in the course of its execution. -/
structure Call.Run where
  statement : Statement
  phase : Call.Phase
  suspended : Nat := 0

/-- Where the execution of a call stands. -/
inductive Call.Execution where
  | unstarted (call : Call)
  | running (run : Call.Run) (slowQueryThreshold : Duration)

namespace Call

/-- The output of one statement: `outputs` lists no other. -/
def outputOf (statement : Statement) (answer : statement.operation.Answer) : Output :=
  (statement.operation.outputs answer).headD (.affected 0)

/-- What is logged for a statement which took longer than the threshold. -/
def slowLog (threshold elapsed : Duration) (statement : Statement) : List Event :=
  if threshold.nanoseconds < elapsed.nanoseconds then
    [.logged (.slowQuery statement.sql)]
  else []

/-- What is logged for an answer of a cleanup. -/
def cleanupLog (event : LogEvent) (answer : Except Error Unit) : List Event :=
  match answer with
  | .ok () => []
  | .error _ => [.logged event]

/-- Go on from a phase with the answer to its operation: to another phase or to
the result, with the events on the way. -/
def resume (threshold elapsed : Duration) (statement : Statement) :
    (phase : Phase) → Except Error (phase.operation statement).Answer →
      (Phase ⊕ Except Error Output) × List Event
  | .acquire, .ok _ => (.inl .execute, [])
  | .acquire, .error error => (.inr (.error error), [])
  | .execute, .ok answer =>
    (.inl (.restore (.ok (outputOf statement answer))), slowLog threshold elapsed statement)
  | .execute, .error error => (.inl (.restore (.error error)), [])
  | .restore result, answer => (.inl (.close result), cleanupLog .autoCommitNotRestored answer)
  | .close result, answer =>
    (.inr result, cleanupLog .closeFailed answer ++ [.logged (.executedCall statement.method)])

/-- Fewer operations remain after each answer. -/
theorem remaining_lt_of_resume {threshold elapsed : Duration} {statement : Statement}
    {phase next : Phase} {answer : Except Error (phase.operation statement).Answer}
    {events : List Event}
    (h : resume threshold elapsed statement phase answer = (.inl next, events)) :
    next.remaining < phase.remaining := by
  cases phase with
  | acquire => cases answer <;> simp [resume] at h; simp [← h.1, Phase.remaining]
  | execute => cases answer <;> simp [resume] at h <;> simp [← h.1, Phase.remaining]
  | restore result => simp [resume] at h; simp [← h.1, Phase.remaining]
  | close result => simp [resume] at h

variable {σ : Type}

/-- Carry a call on until it is suspended or ends. -/
def drive (backend : Backend σ) (threshold : Duration) (run : Run) (state : σ) :
    (Run ⊕ Except Error Output) × List Event × σ :=
  let operation := run.phase.operation run.statement
  match backend.poll operation run.suspended state with
  | (none, state) => (.inl { run with suspended := run.suspended + 1 }, [], state)
  | (some answer, state) =>
    let performed := Event.performed operation (failure? answer)
    match h : resume threshold (backend.elapsed operation) run.statement run.phase answer with
    | (.inr result, events) => (.inr result, performed :: events, state)
    | (.inl next, events) =>
      have := remaining_lt_of_resume h
      let (progress, later, state) :=
        drive backend threshold { statement := run.statement, phase := next } state
      (progress, performed :: (events ++ later), state)
termination_by run.phase.remaining

/-- What is logged for a result which is returned: an error is. -/
def returnLog (result : Except Error Output) : List Event :=
  match result with
  | .ok _ => []
  | .error error => [.logged (.returned error)]

/-- Carry a call on, as the progress of its execution. -/
def carryOn (backend : Backend σ) (threshold : Duration) (run : Run) (state : σ) :
    (Execution ⊕ Except Error Output) × List Event × σ :=
  match drive backend threshold run state with
  | (.inl run, events, state) => (.inl (.running run threshold), events, state)
  | (.inr result, events, state) => (.inr result, events ++ returnLog result, state)

/-- Poll the execution of a call: carry it on until it is suspended or finished.
A statement which could not be bound needs no connection. -/
def execute (backend : Backend σ) (execution : Execution) (state : σ) :
    (Execution ⊕ Except Error Output) × List Event × σ :=
  match execution with
  | .running run threshold => carryOn backend threshold run state
  | .unstarted call =>
    match call.statement with
    | .error error => (.inr (.error error), returnLog (.error error), state)
    | .ok statement =>
      carryOn backend call.slowQueryThreshold { statement := statement, phase := .acquire } state

end Call

/-- Join calls into a transaction, with a participant for each of them, in
order. -/
def joinCalls (threshold : Duration) (calls : List Call) : Except Error Transaction :=
  calls.foldlM (fun t call => (t.participate call.statement).map (·.2))
    { expected := calls.length, slowQueryThreshold := threshold }

end NamedSql
