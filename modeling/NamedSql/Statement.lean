import NamedSql.Query

/-!
# Methods and statements

A method is a declared query.  A call of it is a statement: the query with the
values of its positions.
-/

namespace NamedSql

/-- Whether a statement returns rows or a count of affected rows.  Only updates
are ever executed in batches. -/
inductive StatementKind where
  | query
  | update
deriving DecidableEq

/-- A method with its query. -/
structure Method where
  name : String
  kind : StatementKind
  parameters : List Parameter
  query : Query

/-- A method's query with bound values. -/
structure Statement where
  /-- Name of the method. -/
  method : String
  kind : StatementKind
  query : Query
  values : List SqlValue

/-- The result of a statement. -/
structure Output where
  /-- Number of rows affected by an update, or returned by a query. -/
  rowsAffected : Nat
  columns : List String
  /-- The rows of a query, each with a value for every column. -/
  rows : List (List Json)

/-- The result of an update. -/
def Output.affected (count : Nat) : Output :=
  ⟨count, [], []⟩

namespace Method

/-- Declare a method. -/
def declare (name : String) (kind : StatementKind) (sql : String)
    (parameters : List Parameter) : Except Error Method := do
  let query ← Query.parse name sql parameters
  .ok ⟨name, kind, parameters, query⟩

/-- The name with the parameters and their kinds. -/
def signature (method : Method) : String :=
  NamedSql.signature method.name method.parameters

/-- Bind the arguments of a call, whose number is checked first. -/
def bind (method : Method) (arguments : List Json) : Except Error Statement :=
  if arguments.length ≠ method.parameters.length then
    .error (.argumentCount method.signature method.parameters.length arguments.length)
  else do
    let values ← method.query.bind arguments
    .ok ⟨method.name, method.kind, method.query, values⟩

end Method

namespace Statement

/-- SQL text with positions. -/
def sql (statement : Statement) : String :=
  statement.query.sql

/-- Whether two statements may be executed in one batch: both are updates whose
queries have the same shape. -/
def sameBatch (first second : Statement) : Bool :=
  first.kind == .update && second.kind == .update && first.query.sameShape second.query

end Statement

end NamedSql
