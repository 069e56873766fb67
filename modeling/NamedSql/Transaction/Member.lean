import NamedSql.Statement
import NamedSql.Plan

/-!
# Members of a transaction

A member is a statement which was added to a transaction, together with the sink
which is told its outcome.  A statement which could not be bound is a member,
too.
-/

namespace NamedSql

/-- An error which may be delivered to several receivers.  Within a transaction,
errors of the same serial number are one and the same. -/
structure SharedError where
  serial : Nat
  error : Error
deriving DecidableEq

/-- The outcome of a statement. -/
abbrev Outcome := Except SharedError Output

/-- The consumer of one statement, which waits for its outcome. -/
structure Participant where
  /-- Whether it was ever polled. -/
  polled : Bool := false
  /-- Whether it was dropped, be it with or without its outcome. -/
  gone : Bool := false
  /-- The outcome, from its delivery on. -/
  delivered : Option Outcome := none

/-- Who is told the outcome of a statement. -/
inductive Sink where
  /-- A recorder of the given name, which may refuse what it is told. -/
  | recorder (name : String) (refuses : Bool)
  | participant (participant : Participant)

/-- Tell a sink an outcome: the sink after that, and whether it accepts the
outcome.  A participant which is gone does not. -/
def Sink.accept (outcome : Outcome) : Sink → Sink × Bool
  | .recorder name refuses => (.recorder name refuses, !refuses)
  | .participant consumer =>
    if consumer.gone then (.participant consumer, false)
    else (.participant { consumer with delivered := some outcome }, true)

/-- A statement of a transaction. -/
structure Member where
  /-- The bound statement, or the error which prevented that. -/
  statement : Except SharedError Statement
  sink : Sink
  /-- Whether the sink was told the outcome. -/
  notified : Bool := false
  /-- What the statement returned, until the sink is told. -/
  output : Option Output := none
  subscribed : Bool := false
  executed : Bool := false

namespace Member

/-- The participant which consumes the statement, if one does. -/
def participant? (member : Member) : Option Participant :=
  match member.sink with
  | .participant participant => some participant
  | .recorder .. => none

/-- Change the participant which consumes the statement. -/
def modifyParticipant (change : Participant → Participant) (member : Member) : Member :=
  match member.sink with
  | .participant participant => { member with sink := .participant (change participant) }
  | .recorder .. => member

/-- Subscribe the statement. -/
def subscribe (member : Member) : Member :=
  { member with subscribed := true }

/-- Keep what the statement returned. -/
def record (output : Output) (member : Member) : Member :=
  { member with output := some output, executed := true }

end Member

/-- Whether two statements with their numbers may share a batch.  One which
could not be bound shares none. -/
def sameBatchBound : Nat × Except SharedError Statement → Nat × Except SharedError Statement → Bool
  | (_, .ok first), (_, .ok second) => first.sameBatch second
  | _, _ => false

/-- The bound statement of a member with its number. -/
def boundStatement : Nat × Except SharedError Statement → Except SharedError (Nat × Statement)
  | (id, .ok statement) => .ok (id, statement)
  | (_, .error e) => .error e

/-- The statements of members with their numbers, in order of addition. -/
def numberedStatements (members : List Member) : List (Nat × Except SharedError Statement) :=
  members.mapIdx fun id member => (id, member.statement)

/-- An entry of bound statements with their numbers. -/
abbrev BoundEntry := Entry (Nat × Statement)

/-- The plan of members; the error of the first one which could not be bound. -/
def boundPlan (members : List Member) : Except SharedError (List BoundEntry) :=
  (plan sameBatchBound (numberedStatements members)).mapM (·.mapM boundStatement)

end NamedSql
