import NamedSql.Statement
import NamedSql.Time.Duration

/-!
# Connections

What is asked of a provider of connections and of its connections, and how they
answer.  An operation may be suspended before it is answered, and may fail.
-/

namespace NamedSql

/-- An operation of a provider or a connection. -/
inductive Operation where
  /-- Acquire a connection. -/
  | acquire
  /-- Switch the implicit commit of every statement.  Switching it off begins a
  transaction of the database. -/
  | autoCommit (on : Bool)
  | query (sql : String) (values : List SqlValue)
  | update (sql : String) (values : List SqlValue)
  /-- Execute an update once for each row of values. -/
  | batch (sql : String) (rows : List (List SqlValue))
  | commit
  | rollback
  | close
deriving DecidableEq

namespace Operation

/-- What an operation is answered with. -/
@[reducible]
def Answer : Operation → Type
  | .query .. => Output
  | .update .. => Nat
  | .batch .. => List Nat
  | _ => Unit

/-- The outputs of the statements which an operation executes. -/
def outputs : (operation : Operation) → operation.Answer → List Output
  | .query .., output => [output]
  | .update .., count => [.affected count]
  | .batch .., counts => counts.map .affected
  | .acquire, _ | .autoCommit _, _ | .commit, _ | .rollback, _ | .close, _ => []

/-- Whether the operation executes statements, or makes ready to. -/
def isSlow : Operation → Bool
  | .acquire | .query .. | .update .. | .batch .. => true
  | _ => false

end Operation

/-- The operation which executes a statement. -/
def Statement.operation (statement : Statement) : Operation :=
  match statement.kind with
  | .query => .query statement.sql statement.values
  | .update => .update statement.sql statement.values

/-- A provider with its connections, and the state they depend on. -/
structure Backend (σ : Type) where
  /-- Try an operation which was suspended the given number of times before.  No
  answer means that it is suspended again. -/
  poll : (operation : Operation) → (suspended : Nat) → σ →
    Option (Except Error operation.Answer) × σ
  /-- The time which an operation takes. -/
  elapsed : Operation → Duration

namespace Backend

variable {σ : Type}

/-- The backend which performs every operation at once. -/
def immediate (perform : (operation : Operation) → σ → Except Error operation.Answer × σ)
    (elapsed : Operation → Duration) : Backend σ where
  poll operation _ state :=
    let (answer, state) := perform operation state
    (some answer, state)
  elapsed := elapsed

/-- The backend which suspends some operations once before it performs them. -/
def suspending (suspends : Operation → Bool)
    (perform : (operation : Operation) → σ → Except Error operation.Answer × σ)
    (elapsed : Operation → Duration) : Backend σ where
  poll operation suspended state :=
    if suspended = 0 ∧ suspends operation then (none, state)
    else
      let (answer, state) := perform operation state
      (some answer, state)
  elapsed := elapsed

end Backend

/-- The error of an answer, if it is one. -/
def failure? {α : Type} : Except Error α → Option Error
  | .ok _ => none
  | .error e => some e

end NamedSql
