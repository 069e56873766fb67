import NamedSql.Postgres.Server
import NamedSql.Text.Search

/-!
# Scripted servers

A scripted server answers a statement with the result set which its script has
for the text, and any other statement with a count of its own.  It fails on
request, and keeps a record of the commands it was sent.
-/

namespace NamedSql.Postgres

/-- The rows which a statement is answered with. -/
structure ResultSet where
  sql : String
  columns : List String
  rows : List (List Datum)

/-- The state of a scripted server. -/
structure Script where
  results : List ResultSet := []
  /-- Commands with one of these texts in them fail. -/
  failOn : List String := []
  /-- Number of counts returned so far. -/
  counter : Nat := 0
  /-- The commands which were sent, in order. -/
  sent : List Command := []

namespace Script

/-- The result set of a statement, if it has one. -/
def resultSet? (sql : String) (script : Script) : Option ResultSet :=
  script.results.find? (·.sql == sql)

/-- Whether a text begins or ends a transaction. -/
def isTransactional (sql : String) : Bool :=
  [Command.begin, .commit, .rollback].any (·.sql == sql)

/-- Answer a command which does not fail. -/
def respond (sql : String) (script : Script) : Response × Script :=
  match script.resultSet? sql with
  | some result =>
    ({ affected := result.rows.length, columns := result.columns, rows := result.rows }, script)
  | none =>
    if isTransactional sql then ({}, script)
    else
      ({ affected := script.counter + 1 }, { script with counter := script.counter + 1 })

/-- Take a command. -/
def send (command : Command) (script : Script) : Except Error Response × Script :=
  let script := { script with sent := script.sent ++ [command] }
  if script.failOn.any (Text.contains command.sql) then
    (.error (.sql (.database ("boom: " ++ command.sql))), script)
  else
    let (response, script) := script.respond command.sql
    (.ok response, script)

/-- The server which follows a script. -/
def server : Server Script := ⟨send⟩

end Script

end NamedSql.Postgres
