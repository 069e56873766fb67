import NamedSql.Rounds
import NamedSql.Session.Basic

/-!
# Steps of a session

Each step does one thing to the session and gives a reply.
-/

namespace NamedSql.Session

/-- A change of the database. -/
structure DatabaseChange where
  rows : Option Output := none
  failOn : Option (Option String) := none
  failing : Option (List FailPoint) := none
  batchDelta : Option Int := none

/-- A step, whose indices name things which were created before. -/
inductive Step where
  | call (method : String) (arguments : List Json)
  /-- Execute a call to its end. -/
  | await (call : Nat)
  /-- Join calls into a transaction. -/
  | transaction (calls : List Nat)
  | newTransaction (expected : Nat) (threshold : Option Duration)
  | add (transaction : Nat) (method : String) (arguments : List Json) (sink : String)
      (refuses : Bool)
  | participate (transaction : Nat) (method : String) (arguments : List Json)
  | mark (transaction id : Nat)
  | markAll (transaction : Nat)
  | isAllSubscribed (transaction : Nat)
  | state (transaction : Nat)
  | flags (transaction : Nat)
  | onFailed (transaction : Nat) (callback : String)
  /-- Execute a transaction to its end. -/
  | execute (transaction : Nat)
  | spawnExecute (transaction : Nat)
  | spawnCall (call : Nat)
  | pollTask (task : Nat)
  | dropTask (task : Nat)
  | poll (participant : Nat)
  | drop (participant : Nat)
  | participant (participant : Nat)
  /-- Poll participants in rounds until all are resolved. -/
  | join (participants : List Nat)
  | database (change : DatabaseChange)

/-- The result of polling a participant. -/
inductive Poll where
  | pending
  | ready (outcome : SeenOutcome)
  | gone

/-- The reply to a step. -/
inductive Reply where
  | done
  | gone
  | pending
  | truth (value : Bool)
  | state (state : TransactionState)
  /-- Whether each statement is subscribed and executed. -/
  | flags (statements : List (Bool × Bool))
  | failed (error : Error)
  | output (output : Output)
  | call (index : Nat) (statement : Except Error Statement)
  | transaction (index : Nat)
  | joined (index firstParticipant : Nat) (ids : List Nat)
  | added (id : Nat)
  | participating (index id : Nat)
  | task (index : Nat)
  /-- An execution of a transaction has ended. -/
  | executed (result : Except Error Unit)
  /-- An execution of a call has ended. -/
  | returned (result : Except Error Output)
  | participant (id : Nat) (polled : Bool)
  | polled (poll : Poll)
  | several (polls : List Poll)
  /-- The step names something which does not exist. -/
  | unknown

/-- The reply with a call's result. -/
def Reply.ofOutput : Except Error Output → Reply
  | .ok result => .output result
  | .error error => .failed error

/-- The reply with an execution's result. -/
def Reply.ofResult : Except Error Unit → Reply
  | .ok () => .done
  | .error error => .failed error

/-- The statement of a call of a method. -/
def bindCall? (method : String) (arguments : List Json) (s : Session) :
    Option (Except Error Statement) :=
  (s.methods.find? (·.name == method)).map (·.bind arguments)

/-- Take a call out of the session. -/
def takeCall (index : Nat) (s : Session) : Option Call × Session :=
  (s.calls[index]?.join, { s with calls := s.calls.set index none })

/-- Write the events of a call to the trace. -/
def writeEvents (events : List Event) (s : Session) : Session :=
  events.foldl (fun s event => s.writeEvent 0 event) s

/-- Change a transaction, if there is one of that number. -/
def withTransaction (index : Nat) (s : Session)
    (change : Transaction → Reply × Transaction) : Reply × Session :=
  match s.transactions[index]? with
  | none => (.unknown, s)
  | some t =>
    let (reply, t) := change t
    (reply, s.putTransaction index t)

/-- Poll an execution of a transaction. -/
def pollExecution (backend : Backend Database) (index : Nat) (execution : Execution)
    (s : Session) : Progress × Session :=
  match s.transactions[index]? with
  | none => (.finished (.ok ()), s)
  | some t =>
    let (progress, t, db) := t.execute backend execution s.database
    (progress, { s with database := db }.putTransaction index t)

/-- Poll the execution of a call. -/
def pollCall (backend : Backend Database) (execution : Call.Execution) (s : Session) :
    (Call.Execution ⊕ Except Error Output) × Session :=
  let (progress, events, db) := Call.execute backend execution s.database
  (progress, { s with database := db }.writeEvents events)

/-- The waker of all polls of a session. -/
def waker : Waker := ⟨0, 0⟩

/-- Poll a participant. -/
def pollParticipant (index : Nat) (s : Session) : Poll × Session :=
  match s.participants[index]?.join with
  | none => (.gone, s)
  | some (transaction, id) =>
    match s.transactions[transaction]? with
    | none => (.gone, s)
    | some t =>
      if t.isPresent id then
        let (outcome, t, db) := t.pollParticipant Database.backend id waker s.database
        let s := { s with database := db }.putTransaction transaction t
        match outcome with
        | none => (.pending, s)
        | some outcome =>
          let (outcome, s) := s.seeOutcome transaction outcome
          (.ready outcome, s)
      else (.gone, s)

/-- The result of polling a participant, if it has resolved. -/
def pollResolved (index : Nat) (s : Session) : Option Poll × Session :=
  match s.pollParticipant index with
  | (.pending, s) => (none, s)
  | (poll, s) => (some poll, s)

/-- Apply a change of the database. -/
def DatabaseChange.apply (change : DatabaseChange) (db : Database) : Database :=
  { db with
    rows := change.rows.getD db.rows
    failOn := change.failOn.getD db.failOn
    failing := change.failing.getD db.failing
    batchDelta := change.batchDelta.getD db.batchDelta }

/-- Take calls out of the session. -/
def takeCalls : List Nat → Session → List Call × Session
  | [], s => ([], s)
  | index :: rest, s =>
    let (call, s) := s.takeCall index
    let (calls, s) := takeCalls rest s
    (call.toList ++ calls, s)

/-- Do one step. -/
def perform (s : Session) : Step → Reply × Session
  | .call method arguments =>
    match s.bindCall? method arguments with
    | none => (.unknown, s)
    | some statement =>
      let call : Call := ⟨statement, s.config.slowQueryThreshold⟩
      (.call s.calls.length statement, { s with calls := s.calls ++ [some call] })
  | .await index =>
    match s.takeCall index with
    | (none, s) => (.gone, s)
    | (some call, s) =>
      match s.pollCall Database.awaited (.unstarted call) with
      | (.inr result, s) => (.ofOutput result, s)
      | (.inl _, s) => (.pending, s)
  | .transaction calls =>
    let (calls, s) := s.takeCalls calls
    match joinCalls s.config.slowQueryThreshold calls with
    | .error error => (.failed error, s)
    | .ok t =>
      let index := s.transactions.length
      let first := s.participants.length
      let ids := List.range calls.length
      let s := { s with
        transactions := s.transactions ++ [t]
        participants := s.participants ++ ids.map fun id => some (index, id) }
      (.joined index first ids, s.putTransaction index t)
  | .newTransaction expected threshold =>
    let t : Transaction :=
      { expected := expected
        slowQueryThreshold := threshold.getD ({} : Config).slowQueryThreshold }
    (.transaction s.transactions.length, { s with transactions := s.transactions ++ [t] })
  | .add transaction method arguments sink refuses =>
    match s.bindCall? method arguments with
    | none => (.unknown, s)
    | some statement =>
      s.withTransaction transaction fun t =>
        match t.add statement (.recorder sink refuses) with
        | .ok (id, t) => (.added id, t)
        | .error error => (.failed error, t)
  | .participate transaction method arguments =>
    match s.bindCall? method arguments, s.transactions[transaction]? with
    | some statement, some t =>
      let index := s.participants.length
      match t.participate statement with
      | .ok (id, t) =>
        let s := { s with participants := s.participants ++ [some (transaction, id)] }
        (.participating index id, s.putTransaction transaction t)
      | .error error => (.failed error, { s with participants := s.participants ++ [none] })
    | _, _ => (.unknown, s)
  | .mark transaction id =>
    s.withTransaction transaction fun t =>
      let (last, t) := t.markSubscribed id
      (.truth last, t)
  | .markAll transaction => s.withTransaction transaction fun t => (.done, t.markAllSubscribed)
  | .isAllSubscribed transaction =>
    s.withTransaction transaction fun t => (.truth t.isAllSubscribed, t)
  | .state transaction => s.withTransaction transaction fun t => (.state t.state, t)
  | .flags transaction =>
    s.withTransaction transaction fun t =>
      (.flags (t.members.map fun member => (member.subscribed, member.executed)), t)
  | .onFailed transaction callback =>
    s.withTransaction transaction fun t => (.done, t.onTransactionFailed callback)
  | .execute transaction =>
    match s.pollExecution Database.awaited transaction .unstarted with
    | (.finished result, s) => (.ofResult result, s)
    | (.suspended _, s) => (.pending, s)
  | .spawnExecute transaction =>
    (.task s.tasks.length,
      { s with tasks := s.tasks ++ [some (.transaction transaction .unstarted)] })
  | .spawnCall index =>
    match s.takeCall index with
    | (none, s) => (.gone, s)
    | (some call, s) =>
      (.task s.tasks.length, { s with tasks := s.tasks ++ [some (.call (.unstarted call))] })
  | .pollTask index =>
    match s.tasks[index]?.join with
    | none => (.gone, s)
    | some (.transaction transaction execution) =>
      match s.pollExecution Database.backend transaction execution with
      | (.suspended run, s) =>
        (.pending, { s with tasks := s.tasks.set index (some (.transaction transaction (.running run))) })
      | (.finished result, s) => (.executed result, { s with tasks := s.tasks.set index none })
    | some (.call execution) =>
      match s.pollCall Database.backend execution with
      | (.inl execution, s) =>
        (.pending, { s with tasks := s.tasks.set index (some (.call execution)) })
      | (.inr result, s) => (.returned result, { s with tasks := s.tasks.set index none })
  | .dropTask index =>
    (.truth s.tasks[index]?.join.isSome, { s with tasks := s.tasks.set index none })
  | .poll index =>
    let (poll, s) := s.pollParticipant index
    (.polled poll, s)
  | .drop index =>
    match s.participants[index]?.join with
    | none => (.truth false, s)
    | some (transaction, id) =>
      s.withTransaction transaction fun t => (.truth (t.isPresent id), t.depart id)
  | .participant index =>
    match s.participants[index]?.join with
    | none => (.gone, s)
    | some (transaction, id) =>
      s.withTransaction transaction fun t =>
        if t.isPresent id then (.participant id (t.wasPolled id), t) else (.gone, t)
  | .join indices =>
    let (polls, s) := Rounds.join pollResolved indices s
    (.several (polls.map (·.getD .pending)), s)
  | .database change => (.done, { s with database := change.apply s.database })

/-- Do one step: the reply, and what was seen meanwhile. -/
def step (step : Step) (s : Session) : Reply × List Trace × Session :=
  let (reply, s) := s.perform step
  (reply, s.trace, { s with trace := [] })

end NamedSql.Session
