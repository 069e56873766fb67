import NamedSql.Call
import NamedSql.Config
import NamedSql.Session.Database

/-!
# Sessions

A session is a workspace in which methods are called, calls are joined into
transactions, and executions are carried on step by step, over a database in
memory.  Calls, transactions, participants and tasks are numbered in order of
creation.  Shared errors are numbered in the order in which they are first seen.
-/

namespace NamedSql

namespace Session

/-- A shared error with its number in the session. -/
structure SeenError where
  number : Nat
  error : Error

/-- The outcome of a participant. -/
abbrev SeenOutcome := Except SeenError Output

/-- What is seen of the work which a step sets off. -/
inductive Trace where
  | performed (operation : Operation)
  /-- A recorder of the given name was told an outcome. -/
  | notified (recorder : String) (state : TransactionState) (outcome : SeenOutcome)
  | called (callback : String) (state : TransactionState) (error : SeenError)
  | logged (event : LogEvent)

/-- A future which is polled explicitly. -/
inductive Task where
  | transaction (index : Nat) (execution : Execution)
  | call (execution : Call.Execution)

end Session

/-- The state of a session. -/
structure Session where
  config : Config := {}
  methods : List Method := []
  database : Session.Database := {}
  /-- The calls which were not consumed. -/
  calls : List (Option Call) := []
  transactions : List Transaction := []
  /-- Transaction and statement of each participant which was created. -/
  participants : List (Option (Nat × Nat)) := []
  tasks : List (Option Session.Task) := []
  /-- Transaction and serial number of every shared error which was seen. -/
  seen : List (Nat × Nat) := []
  /-- What was seen since the last step, in order. -/
  trace : List Session.Trace := []

namespace Session

/-- The number of a shared error of a transaction, which is a new one if the
error was not seen before. -/
def see (transaction : Nat) (error : SharedError) (s : Session) : SeenError × Session :=
  match s.seen.idxOf? (transaction, error.serial) with
  | some number => (⟨number, error.error⟩, s)
  | none =>
    (⟨s.seen.length, error.error⟩, { s with seen := s.seen ++ [(transaction, error.serial)] })

/-- The outcome of a statement of a transaction, as it is seen. -/
def seeOutcome (transaction : Nat) (outcome : Outcome) (s : Session) : SeenOutcome × Session :=
  match outcome with
  | .ok output => (.ok output, s)
  | .error error =>
    let (error, s) := s.see transaction error
    (.error error, s)

/-- Add to the trace. -/
def write (trace : Trace) (s : Session) : Session :=
  { s with trace := s.trace ++ [trace] }

/-- The name of the recorder which is told the outcome of a statement. -/
def recorder? (transaction id : Nat) (s : Session) : Option String := do
  let t ← s.transactions[transaction]?
  let member ← t.members[id]?
  match member.sink with
  | .recorder name _ => some name
  | .participant _ => none

/-- Write an event of a transaction to the trace.  What is told to participants
is not seen before they resolve, and a connection which could not be acquired is
not seen at all. -/
def writeEvent (transaction : Nat) (event : Event) (s : Session) : Session :=
  match event with
  | .performed .acquire (some _) => s
  | .performed operation _ => s.write (.performed operation)
  | .notified id state outcome =>
    match s.recorder? transaction id with
    | none => s
    | some name =>
      let (outcome, s) := s.seeOutcome transaction outcome
      s.write (.notified name state outcome)
  | .called callback state error =>
    let (error, s) := s.see transaction error
    s.write (.called callback state error)
  | .logged event => s.write (.logged event)
  | .woken _ => s

/-- Put a changed transaction back, and move its history to the trace. -/
def putTransaction (index : Nat) (t : Transaction) (s : Session) : Session :=
  let s := { s with transactions := s.transactions.set index { t with history := [] } }
  t.history.foldl (fun s event => s.writeEvent index event) s

end Session

end NamedSql
