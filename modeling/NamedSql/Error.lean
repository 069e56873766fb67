import NamedSql.Text.Quoted
import NamedSql.Transaction.State

/-!
# Errors

Everything that can go wrong, from the declaration of a method to the execution
of its calls.
-/

namespace NamedSql

/-- A failure which the database or its adapter reports. -/
inductive SqlError where
  /-- Data which does not have the form it should have. -/
  | invalidData (detail : String)
  /-- The server refused a statement. -/
  | database (message : String)
  /-- The value of a column, counted from 0, has no document. -/
  | columnDecode (column : Nat)
deriving DecidableEq

/-- How a failure is displayed. -/
def SqlError.message : SqlError → String
  | .invalidData detail => "encountered unexpected or invalid data: " ++ detail
  | .database message => message
  | .columnDecode column => toString column

/-- The cause of a failure. -/
inductive Error where
  /-- A query has a placeholder without a name. -/
  | unsupportedQuery (query : String)
  /-- A placeholder names no parameter, or no property of one. -/
  | unresolvedParameter (placeholder signature : String)
  /-- A list without a native array stands where an array is needed. -/
  | unsupportedArrayType (placeholder element : String)
  /-- A method is called with too few or too many arguments. -/
  | argumentCount (signature : String) (expected actual : Nat)
  /-- A value does not fit the declared kind of its placeholder. -/
  | invalidArgument (placeholder expected value : String)
  /-- An argument has no document. -/
  | serialize
  /-- A row does not have the declared form. -/
  | deserialize (record : String)
  /-- A transaction is executed before all its statements are subscribed. -/
  | notAllSubscribed (awaiting : Nat)
  /-- A transaction does not have the number of statements it was created for. -/
  | modifiedAfterCreation (expected actual : Nat)
  /-- A statement is added to a transaction which has started. -/
  | notPending (state : TransactionState)
  /-- A batch did not return one count for each of its statements. -/
  | batchResult (expected actual : Nat)
  | sql (cause : SqlError)
deriving DecidableEq

/-- How an error is displayed. -/
def Error.message : Error → String
  | .unsupportedQuery query => "unnamed parameters are not supported: " ++ query
  | .unresolvedParameter placeholder signature =>
    "query contains placeholder " ++ Text.quoted placeholder ++ " but method " ++ signature ++
      " has no such argument"
  | .unsupportedArrayType placeholder element =>
    "placeholder " ++ Text.quoted placeholder ++ " is a list of " ++ element ++
      ", which has no SQL array type"
  | .argumentCount signature expected actual =>
    "method " ++ signature ++ " expects " ++ toString expected ++
      " arguments, but was called with " ++ toString actual
  | .invalidArgument placeholder expected value =>
    "value " ++ value ++ " of placeholder " ++ Text.quoted placeholder ++
      " cannot be bound as " ++ expected
  | .serialize => "failed to serialize argument"
  | .deserialize record => "failed to deserialize result row into " ++ record
  | .notAllSubscribed awaiting =>
    "transaction cannot execute while " ++ toString awaiting ++
      " of its statements are not subscribed"
  | .modifiedAfterCreation expected actual =>
    "transaction was created for " ++ toString expected ++ " calls, but has " ++
      toString actual ++ " statements"
  | .notPending state =>
    "statements cannot be added to a transaction which is " ++ state.display
  | .batchResult expected actual =>
    "batch of " ++ toString expected ++ " statements returned " ++ toString actual ++
      " update counts"
  | .sql cause => cause.message

end NamedSql
