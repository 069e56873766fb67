import NamedSql.Transaction.Basic

/-!
# Running a transaction

A run is a small machine: in each phase it waits for the answer to one
operation, and the answer leads to the next phase.  It acquires a connection,
executes the plan of all statements and commits, rolls back if something failed,
and in any case makes the connection fit for others and closes it.  When it ends,
the transaction is committed or rolled back, and only then all sinks are told.

An execution is a request to run.  It is refused while statements are missing or
not subscribed.  A gate lets one execution pass at a time, and the state lets
only the first one run.
-/

namespace NamedSql

/-- The operation which executes an entry. -/
def entryOperation (entry : BoundEntry) : Operation :=
  match entry.others with
  | [] => entry.first.2.operation
  | _ :: _ => .batch entry.first.2.sql (entry.statements.map (·.2.values))

/-- The operation whose answer a phase waits for. -/
def Phase.operation : Phase → Operation
  | .acquire _ => .acquire
  | .start _ => .autoCommit false
  | .execute entry _ => entryOperation entry
  | .commit => .commit
  | .rollback _ => .rollback
  | .restore _ => .autoCommit true
  | .close _ => .close

/-- An upper bound on the number of operations from a phase on. -/
def Phase.remaining : Phase → Nat
  | .acquire entries => entries.length + 6
  | .start entries => entries.length + 5
  | .execute _ rest => rest.length + 5
  | .commit => 4
  | .rollback _ => 3
  | .restore _ => 2
  | .close _ => 1

/-- The phase which executes the given entries: after the last one, all is
committed. -/
def Phase.next : List BoundEntry → Phase
  | [] => .commit
  | entry :: rest => .execute entry rest

namespace Transaction

/-- Keep the outputs of the statements of an entry. -/
def record (entry : BoundEntry) (outputs : List Output) (t : Transaction) : Transaction :=
  (entry.statements.zip outputs).foldl
    (fun t executed => t.modifyMember executed.1.1 (Member.record executed.2)) t

/-- Log an entry which took longer than the threshold. -/
def logIfSlow (elapsed : Duration) (entry : BoundEntry) (t : Transaction) : Transaction :=
  if t.slowQueryThreshold.nanoseconds < elapsed.nanoseconds then
    t.log (.slowQuery entry.first.2.sql)
  else t

/-- Tell the sinks of all statements, in order of addition. -/
def notifyAll (outcome : Member → Outcome) (t : Transaction) : Transaction :=
  (List.range t.members.length).foldl (fun t id => t.notify id outcome) t

/-- The outcome of a statement of a committed transaction. -/
def completed (member : Member) : Outcome :=
  .ok (member.output.getD (.affected 0))

/-- Call the failure callback, once. -/
def callOnFailed (error : SharedError) (t : Transaction) : Transaction :=
  match t.onFailed with
  | none => t
  | some callback => { t with onFailed := none }.note [.called callback t.state error]

/-- End a run: decide the state, and only then tell every sink. -/
def settle (outcome : Except SharedError Unit) (t : Transaction) : Transaction :=
  match outcome with
  | .ok () => { t with state := .committed }.notifyAll completed
  | .error error =>
    let t := t.log .transactionFailed
    let t := { t with gate := false, state := .rolledBack }
    (t.notifyAll fun _ => .error error).callOnFailed error

/-- Go on with an error: to the given phase, with the error as its cause. -/
def fail (error : Error) (next : SharedError → Option Phase) (t : Transaction) :
    Option Phase × Transaction :=
  let (shared, t) := t.share error
  (next shared, t)

/-- Go on from a phase with the answer to its operation.  There is no phase after
the end of the run. -/
def resume (elapsed : Duration) : (phase : Phase) → Except Error phase.operation.Answer →
    Transaction → Option Phase × Transaction
  | .acquire entries, .ok _, t => (some (.start entries), t)
  | .acquire _, .error error, t =>
    let (shared, t) := t.share error
    (none, t.settle (.error shared))
  | .start entries, .ok _, t => (some (.next entries), t)
  | .execute entry rest, .ok answer, t =>
    let t := t.logIfSlow elapsed entry
    let outputs := (entryOperation entry).outputs answer
    if outputs.length ≠ entry.statements.length then
      t.fail (.batchResult entry.statements.length outputs.length) fun e => some (.rollback e)
    else (some (.next rest), t.record entry outputs)
  | .commit, .ok _, t => (some (.restore (.ok ())), t)
  | .start _, .error error, t | .execute _ _, .error error, t | .commit, .error error, t =>
    t.fail error fun e => some (.rollback e)
  | .rollback cause, .ok _, t => (some (.restore (.error cause)), t)
  | .rollback cause, .error _, t => (some (.restore (.error cause)), t.log .rollbackFailed)
  | .restore outcome, .ok _, t => (some (.close outcome), t)
  | .restore outcome, .error _, t => (some (.close outcome), t.log .autoCommitNotRestored)
  | .close outcome, .ok _, t => (none, t.settle outcome)
  | .close outcome, .error _, t => (none, (t.log .closeFailed).settle outcome)

/-- Fewer operations remain after each answer. -/
theorem remaining_lt_of_resume {elapsed : Duration} {phase next : Phase}
    {answer : Except Error phase.operation.Answer} {t after : Transaction}
    (h : t.resume elapsed phase answer = (some next, after)) :
    next.remaining < phase.remaining := by
  have next_lt (entries : List BoundEntry) :
      (Phase.next entries).remaining < entries.length + 5 := by
    cases entries <;> simp [Phase.next, Phase.remaining]
  cases phase with
  | acquire entries =>
    cases answer <;> simp [resume] at h
    simp [← h.1, Phase.remaining]
  | start entries =>
    cases answer <;> simp [resume, fail] at h
    · simp only [← h.1, Phase.remaining]
      omega
    · simpa only [← h.1, Phase.remaining] using next_lt entries
  | execute entry rest =>
    cases answer with
    | error error =>
      simp only [resume, fail, Prod.mk.injEq, Option.some.injEq] at h
      simp only [← h.1, Phase.remaining]
      omega
    | ok answer =>
      simp only [resume, fail] at h
      split at h
      · simp only [Prod.mk.injEq, Option.some.injEq] at h
        simp only [← h.1, Phase.remaining]
        omega
      · simp only [Prod.mk.injEq, Option.some.injEq] at h
        simpa only [← h.1, Phase.remaining] using next_lt rest
  | commit => cases answer <;> simp [resume, fail] at h <;> simp [← h.1, Phase.remaining]
  | rollback cause => cases answer <;> simp [resume] at h <;> simp [← h.1, Phase.remaining]
  | restore outcome => cases answer <;> simp [resume] at h <;> simp [← h.1, Phase.remaining]
  | close outcome => cases answer <;> simp [resume] at h

end Transaction

/-- Where an execution stands after it was polled. -/
inductive Progress where
  | suspended (run : Run)
  | finished (result : Except Error Unit)

namespace Transaction

variable {σ : Type}

/-- Carry a run on until it is suspended or ends. -/
def drive (backend : Backend σ) (run : Run) (t : Transaction) (state : σ) :
    Option Run × Transaction × σ :=
  match backend.poll run.phase.operation run.suspended state with
  | (none, state) => (some { run with suspended := run.suspended + 1 }, t, state)
  | (some answer, state) =>
    let t := t.note [.performed run.phase.operation (failure? answer)]
    match h : t.resume (backend.elapsed run.phase.operation) run.phase answer with
    | (none, t) => (none, t, state)
    | (some next, t) =>
      have := remaining_lt_of_resume h
      t.drive backend { phase := next } state
termination_by run.phase.remaining

/-- Carry a run on, as the progress of its execution. -/
def carryOn (backend : Backend σ) (run : Run) (t : Transaction) (state : σ) :
    Progress × Transaction × σ :=
  match t.drive backend run state with
  | (some run, t, state) => (.suspended run, t, state)
  | (none, t, state) => (.finished (.ok ()), t, state)

/-- Refuse an execution. -/
def refuse (error : Error) (t : Transaction) : Progress × Transaction :=
  (.finished (.error error), t.log (.returned error))

/-- Start an execution.  It is refused while statements are not subscribed or
their number is not the expected one.  After that the gate and then the state
decide whether it runs; otherwise there is nothing left to do for it.  Statements
which could not be bound fail the run before it needs a connection. -/
def begin (t : Transaction) : Progress × Transaction :=
  if ¬ t.awaiting.isEmpty then t.refuse (.notAllSubscribed t.awaiting.length)
  else if t.members.length ≠ t.expected then
    t.refuse (.modifiedAfterCreation t.expected t.members.length)
  else if t.gate then (.finished (.ok ()), t.log .alreadyExecuting)
  else if t.state ≠ .pending then
    (.finished (.ok ()), { t with gate := true }.log (.alreadyExecuted t.state))
  else
    let t := { t with gate := true, state := .executing }
    match boundPlan t.members with
    | .error error => (.finished (.ok ()), t.settle (.error error))
    | .ok entries => (.suspended { phase := .acquire entries }, t)

/-- Poll an execution: carry it on until it is suspended or finished. -/
def execute (backend : Backend σ) (execution : Execution) (t : Transaction) (state : σ) :
    Progress × Transaction × σ :=
  match execution with
  | .running run => t.carryOn backend run state
  | .unstarted =>
    match t.begin with
    | (.suspended run, t) => t.carryOn backend run state
    | (.finished result, t) => (.finished result, t, state)

end Transaction

end NamedSql
