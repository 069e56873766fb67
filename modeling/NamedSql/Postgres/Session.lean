import NamedSql.Call
import NamedSql.Config
import NamedSql.Postgres.Connection
import NamedSql.Postgres.Script
import NamedSql.Rounds

/-!
# Sessions with a server

A session is a workspace over one connection to a scripted server.  While the
connection is held, operations are performed over it one by one; otherwise calls
and transactions of methods are executed, which acquire it themselves.
-/

namespace NamedSql.Postgres

/-- A document with the strategy it is bound by. -/
abbrev Unbound := BindStrategy × Json

/-- A step of a session. -/
inductive Step where
  /-- Let commands with one of the given texts in them fail from now on. -/
  | failOn (texts : List String)
  | acquire
  | close
  | autoCommit (on : Bool)
  | commit
  | rollback
  | query (sql : String) (values : List Unbound)
  | update (sql : String) (values : List Unbound)
  | batch (sql : String) (rows : List (List Unbound))
  /-- Execute a call of a method. -/
  | call (method : String) (arguments : List Json)
  /-- Join calls of methods into a transaction and execute it. -/
  | transaction (calls : List (String × List Json))

/-- The reply to a step. -/
inductive Reply where
  | done
  /-- The connection is held although it must not be, or the other way around. -/
  | notApplicable
  | failed (error : Error)
  | output (output : Output)
  | count (count : Nat)
  | counts (counts : List Nat)
  /-- The outcomes of the statements of a transaction, as far as they are known,
  and its state. -/
  | outcomes (outcomes : List (Option (Except Error Output))) (state : TransactionState)
  /-- The step names a method which does not exist. -/
  | unknown

/-- The state of a session. -/
structure Session where
  methods : List Method := []
  connection : Connection Script
  /-- Whether the connection is held. -/
  held : Bool := false

namespace Session

/-- The provider of a session.  No operation takes any time. -/
def backend : Backend (Connection Script) :=
  Script.server.backend fun _ => ⟨0⟩

/-- The name which values without a placeholder are bound under. -/
def placeholder : String := "p"

/-- Bind documents, up to the first which cannot be bound. -/
def bindAll (values : List Unbound) : Except Error (List SqlValue) :=
  values.mapM fun (strategy, value) => strategy.bind placeholder value

/-- Perform an operation, and reply as its answer is to be shown. -/
def operate (operation : Operation) (reply : operation.Answer → Reply) (s : Session) :
    Reply × Session :=
  let (answer, connection) := Script.server.perform operation s.connection
  let s := { s with connection := connection }
  match answer with
  | .ok answer => (reply answer, s)
  | .error error => (.failed error, s)

/-- Perform an operation over the connection, which must be held. -/
def operateHeld (operation : Except Error Operation)
    (reply : (operation : Operation) → operation.Answer → Reply) (s : Session) : Reply × Session :=
  if s.held then
    match operation with
    | .ok operation => s.operate operation (reply operation)
    | .error error => (.failed error, s)
  else (.notApplicable, s)

/-- The reply which shows the answer to an operation. -/
def answerReply : (operation : Operation) → operation.Answer → Reply
  | .query .., output => .output output
  | .update .., count => .count count
  | .batch .., counts => .counts counts
  | .acquire, _ | .autoCommit _, _ | .commit, _ | .rollback, _ | .close, _ => .done

/-- The statement of a call of a method. -/
def bindCall? (s : Session) (method : String) (arguments : List Json) :
    Option (Except Error Statement) :=
  (s.methods.find? (·.name == method)).map (·.bind arguments)

/-- The call of a method. -/
def call? (s : Session) (method : String) (arguments : List Json) : Option Call :=
  (s.bindCall? method arguments).map fun statement =>
    ⟨statement, ({} : Config).slowQueryThreshold⟩

/-- Execute a call. -/
def execute (call : Call) (s : Session) : Reply × Session :=
  match Call.execute backend (.unstarted call) s.connection with
  | (.inr (.ok output), _, connection) => (.output output, { s with connection := connection })
  | (.inr (.error error), _, connection) => (.failed error, { s with connection := connection })
  | (.inl _, _, connection) => (.unknown, { s with connection := connection })

/-- Poll a participant of a transaction. -/
def poll (id : Nat) (state : Transaction × Connection Script) :
    Option Outcome × Transaction × Connection Script :=
  state.1.pollParticipant backend id ⟨0, 0⟩ state.2

/-- Join calls into a transaction, and poll all participants until they have
resolved. -/
def executeAll (calls : List Call) (s : Session) : Reply × Session :=
  match joinCalls ({} : Config).slowQueryThreshold calls with
  | .error error => (.failed error, s)
  | .ok t =>
    let (outcomes, t, connection) :=
      Rounds.join poll (List.range calls.length) (t, s.connection)
    let shown (outcome : Outcome) : Except Error Output := outcome.mapError (·.error)
    (.outcomes (outcomes.map (·.map shown)) t.state, { s with connection := connection })

/-- Do one step. -/
def perform (s : Session) : Step → Reply × Session
  | .failOn texts =>
    let script := { s.connection.server with failOn := texts }
    (.done, { s with connection := { s.connection with server := script } })
  | .acquire =>
    if s.held then (.notApplicable, s)
    else
      let (reply, s) := s.operate .acquire fun _ => .done
      (reply, { s with held := true })
  | .close =>
    if s.held then
      let (reply, s) := s.operate .close fun _ => .done
      (reply, { s with held := false })
    else (.notApplicable, s)
  | .autoCommit on => s.operateHeld (.ok (.autoCommit on)) answerReply
  | .commit => s.operateHeld (.ok .commit) answerReply
  | .rollback => s.operateHeld (.ok .rollback) answerReply
  | .query sql values => s.operateHeld ((bindAll values).map (.query sql)) answerReply
  | .update sql values => s.operateHeld ((bindAll values).map (.update sql)) answerReply
  | .batch sql rows => s.operateHeld ((rows.mapM bindAll).map (.batch sql)) answerReply
  | .call method arguments =>
    if s.held then (.notApplicable, s)
    else
      match s.call? method arguments with
      | none => (.unknown, s)
      | some call => s.execute call
  | .transaction calls =>
    if s.held then (.notApplicable, s)
    else
      match calls.mapM fun (method, arguments) => s.call? method arguments with
      | none => (.unknown, s)
      | some calls => s.executeAll calls

/-- Do one step: the reply, and the commands which were sent for it. -/
def step (step : Step) (s : Session) : Reply × List Command × Session :=
  let (reply, s) := s.perform step
  let script := s.connection.server
  (reply, script.sent,
    { s with connection := { s.connection with server := { script with sent := [] } } })

end Session

end NamedSql.Postgres
