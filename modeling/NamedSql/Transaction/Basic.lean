import NamedSql.Connection
import NamedSql.Log
import NamedSql.Transaction.Member

/-!
# Transactions

A transaction executes a fixed number of statements over one connection, all or
none.  Statements are added first and subscribed by their consumers later.  This
module holds the register of statements; every change is also written into the
history.
-/

namespace NamedSql

/-- What wakes a task.  Wakers are alike only if they wake the same task. -/
structure Waker where
  task : Nat
  handle : Nat
deriving DecidableEq

/-- Something which a transaction did. -/
inductive Event where
  /-- An operation was performed, and maybe failed. -/
  | performed (operation : Operation) (failure : Option Error)
  /-- The sink of a statement was told the outcome, in the given state. -/
  | notified (id : Nat) (state : TransactionState) (outcome : Outcome)
  /-- The failure callback was called, in the given state. -/
  | called (callback : String) (state : TransactionState) (error : SharedError)
  | logged (event : LogEvent)
  | woken (waker : Waker)

/-- A stage of a run, waiting for the answer to one operation. -/
inductive Phase where
  /-- Acquire a connection. -/
  | acquire (entries : List BoundEntry)
  /-- Switch automatic commits off. -/
  | start (entries : List BoundEntry)
  /-- Execute one entry, and the rest after it. -/
  | execute (entry : BoundEntry) (rest : List BoundEntry)
  | commit
  | rollback (cause : SharedError)
  /-- Switch automatic commits on again. -/
  | restore (outcome : Except SharedError Unit)
  | close (outcome : Except SharedError Unit)

/-- A run of all statements, and how often its pending operation was
suspended. -/
structure Run where
  phase : Phase
  suspended : Nat := 0

/-- A request to execute a transaction. -/
inductive Execution where
  /-- Nothing was done for it yet. -/
  | unstarted
  | running (run : Run)

/-- The execution which all participants share. -/
inductive SharedExecution where
  | active (execution : Execution)
  | finished (result : Except SharedError Unit)

/-- A transaction. -/
structure Transaction where
  /-- Number of statements it was created for. -/
  expected : Nat
  /-- Statements which take longer than this are logged as slow. -/
  slowQueryThreshold : Duration
  members : List Member := []
  /-- Numbers of the statements which are not subscribed. -/
  awaiting : List Nat := []
  /-- Whether an execution has passed the gate and did not fail. -/
  gate : Bool := false
  state : TransactionState := .pending
  /-- The failure callback. -/
  onFailed : Option String := none
  /-- The execution started by participants. -/
  shared : Option SharedExecution := none
  /-- Participants which wait for the execution to start. -/
  waiters : List Waker := []
  /-- Number of errors so far. -/
  errors : Nat := 0
  history : List Event := []

namespace Transaction

/-- Write events into the history. -/
def note (events : List Event) (t : Transaction) : Transaction :=
  { t with history := t.history ++ events }

/-- Write a log event into the history. -/
def log (event : LogEvent) (t : Transaction) : Transaction :=
  t.note [.logged event]

/-- Give an error its identity. -/
def share (error : Error) (t : Transaction) : SharedError × Transaction :=
  (⟨t.errors, error⟩, { t with errors := t.errors + 1 })

/-- Change one statement. -/
def modifyMember (id : Nat) (change : Member → Member) (t : Transaction) : Transaction :=
  { t with members := t.members.modify id change }

/-- What is logged if a sink refuses an outcome. -/
def refusal (id : Nat) : Outcome → LogEvent
  | .ok _ => .outputRefused id
  | .error _ => .errorRefused id

/-- Tell the sink of a statement the outcome, unless it was told one before. -/
def notify (id : Nat) (outcome : Member → Outcome) (t : Transaction) : Transaction :=
  match t.members[id]? with
  | none => t
  | some member =>
    if member.notified then t
    else
      let outcome := outcome member
      let (sink, accepted) := member.sink.accept outcome
      let t := t.modifyMember id fun member =>
        { member with sink := sink, notified := true, output := none }
      let t := t.note [.notified id t.state outcome]
      if accepted then t else t.log (refusal id outcome)

/-- Add a statement.  One which could not be bound is added, too, and its sink is
told so at once. -/
def add (statement : Except Error Statement) (sink : Sink) (t : Transaction) :
    Except Error (Nat × Transaction) :=
  if t.state ≠ .pending then .error (.notPending t.state)
  else
    let id := t.members.length
    let register (statement : Except SharedError Statement) (t : Transaction) : Transaction :=
      { t with
        members := t.members ++ [{ statement := statement, sink := sink }]
        awaiting := t.awaiting ++ [id] }
    match statement with
    | .ok statement => .ok (id, register (.ok statement) t)
    | .error error =>
      let (shared, t) := t.share error
      let t := register (.error shared) t
      let t := t.log (.failedBeforeExecution id)
      .ok (id, t.notify id fun _ => .error shared)

/-- Subscribe a statement.  True if it was the last one which was awaited. -/
def markSubscribed (id : Nat) (t : Transaction) : Bool × Transaction :=
  let awaiting := t.awaiting.erase id
  let last := t.awaiting.contains id && awaiting.isEmpty
  (last, { t.modifyMember id Member.subscribe with awaiting := awaiting })

/-- Subscribe all statements. -/
def markAllSubscribed (t : Transaction) : Transaction :=
  { t with members := t.members.map Member.subscribe, awaiting := [] }

/-- Whether no statement is awaited. -/
def isAllSubscribed (t : Transaction) : Bool :=
  t.awaiting.isEmpty

/-- Register the failure callback, in place of any other. -/
def onTransactionFailed (callback : String) (t : Transaction) : Transaction :=
  { t with onFailed := some callback }

end Transaction

end NamedSql
