import NamedSql.Error
import NamedSql.Postgres.Binary
import NamedSql.Statement

/-!
# The server

The server takes commands and answers each of them with a response or a failure.
A response to a statement may hold rows.
-/

namespace NamedSql.Postgres

/-- A command of the server. -/
inductive Command where
  /-- Begin a transaction. -/
  | begin
  | commit
  | rollback
  /-- Execute a statement with numbered positions, whose parameters were declared
  with the given types, for the given values. -/
  | statement (sql : String) (types : List WireType) (values : List SqlValue)

namespace Command

/-- The text of a command. -/
def sql : Command → String
  | .begin => "BEGIN"
  | .commit => "COMMIT"
  | .rollback => "ROLLBACK"
  | .statement sql _ _ => sql

/-- Read every value in the declared type of its parameter.  Without one it has
the type which it was sent as. -/
def readings : List WireType → List SqlValue → List (WireType × Reading)
  | type :: types, value :: values =>
    (type, type.read (.ofValue value)) :: readings types values
  | [], value :: values =>
    let type := WireType.ofParameter value.type
    (type, type.read (.ofValue value)) :: readings [] values
  | _, [] => []

/-- The parameters of a command, as they are read. -/
def parameters : Command → List (WireType × Reading)
  | .statement _ types values => readings types values
  | _ => []

end Command

/-- What the server answers a command with. -/
structure Response where
  /-- Number of rows affected or returned. -/
  affected : Nat := 0
  columns : List String := []
  rows : List (List Datum) := []

namespace Response

/-- The documents of a row, whose first column has the given number.  The first
datum without a document is the error. -/
def rowFrom (column : Nat) : List Datum → Except Error (List Json)
  | [] => .ok []
  | datum :: rest =>
    match datum.json? with
    | none => .error (.sql (.columnDecode column))
    | some value => (rowFrom (column + 1) rest).map (value :: ·)

/-- The output of a query.  Without rows nothing is known of the columns. -/
def output (response : Response) : Except Error Output :=
  (response.rows.mapM (rowFrom 0)).map fun rows =>
    ⟨rows.length, if rows.isEmpty then [] else response.columns, rows⟩

end Response

/-- A server whose behaviour depends on a state. -/
structure Server (σ : Type) where
  send : Command → σ → Except Error Response × σ

end NamedSql.Postgres
