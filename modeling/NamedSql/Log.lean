import NamedSql.Error

/-!
# Log events

What is logged while statements are declared, executed and read back.
-/

namespace NamedSql

/-- How severe an event is. -/
inductive LogLevel where
  | debug
  | warn
  | error
deriving DecidableEq

/-- How a level is displayed. -/
def LogLevel.display : LogLevel → String
  | .debug => "DEBUG"
  | .warn => "WARN"
  | .error => "ERROR"

/-- An event which is logged. -/
inductive LogEvent where
  /-- A statement took longer than the threshold. -/
  | slowQuery (sql : String)
  | transactionFailed
  | alreadyExecuting
  | alreadyExecuted (state : TransactionState)
  /-- A statement was added which could not be bound. -/
  | failedBeforeExecution (id : Nat)
  /-- A sink did not accept the output of its statement. -/
  | outputRefused (id : Nat)
  /-- A sink did not accept the error of its statement. -/
  | errorRefused (id : Nat)
  | rollbackFailed
  | autoCommitNotRestored
  | closeFailed
  | executedCall (method : String)
  /-- A result column has no property in the record. -/
  | unmatchedColumn (column camelCase record : String)
  /-- An execution returned an error to its caller. -/
  | returned (error : Error)
deriving DecidableEq

namespace LogEvent

/-- The level of an event. -/
def level : LogEvent → LogLevel
  | .slowQuery _ | .transactionFailed | .unmatchedColumn .. => .warn
  | .alreadyExecuting | .alreadyExecuted _ | .failedBeforeExecution _ | .executedCall _ => .debug
  | .outputRefused _ | .errorRefused _ | .rollbackFailed | .autoCommitNotRestored | .closeFailed
  | .returned _ => .error

/-- The message of an event; an error which is returned has none. -/
def message : LogEvent → Option String
  | .slowQuery _ => some "slow query"
  | .transactionFailed => some "transaction failed"
  | .alreadyExecuting => some "transaction is already executing"
  | .alreadyExecuted _ => some "transaction has already executed"
  | .failedBeforeExecution _ => some "transaction statement failed before execution"
  | .outputRefused _ => some "on_completed of statement failed"
  | .errorRefused _ => some "on_error of statement failed"
  | .rollbackFailed => some "failed to roll back transaction"
  | .autoCommitNotRestored => some "failed to restore connection auto-commit"
  | .closeFailed => some "error closing connection"
  | .executedCall _ => some "executed call"
  | .unmatchedColumn column camelCase record =>
    some ("tried to deserialize column " ++ column ++
      ", but found no matching property named " ++ camelCase ++ " in " ++ record)
  | .returned _ => none

end LogEvent

end NamedSql
