import NamedSql.Connection
import NamedSql.Postgres.Prepared
import NamedSql.Postgres.Server
import NamedSql.Sql.Numbered

/-!
# Connections to the server

A connection remembers whether it has begun a transaction.  Transactions are
begun by switching automatic commits off, and ended by a commit or a rollback:
whatever the server answers to these, the transaction is over.  Switching
automatic commits on rolls back what was not committed, because the server would
not commit it.  Everything which is sent is prepared, and stays so when the
connection is given back.
-/

namespace NamedSql.Postgres

/-- A connection, with the state of the server it leads to. -/
structure Connection (σ : Type) where
  server : σ
  prepared : Prepared := {}
  inTransaction : Bool := false

namespace Server

variable {σ : Type}

/-- Send a statement with numbered positions over a connection, prepared for the
types of the values unless it is already. -/
def execute (server : Server σ) (sql : String) (values : List SqlValue) (c : Connection σ) :
    Except Error Response × Connection σ :=
  let (types, prepared) := c.prepared.use sql (values.map fun value => .ofParameter value.type)
  let (answer, state) := server.send (.statement sql types values) c.server
  (answer, { c with server := state, prepared := prepared })

/-- Send a command without parameters over a connection, prepared like any
statement. -/
def control (server : Server σ) (command : Command) (c : Connection σ) :
    Except Error Response × Connection σ :=
  let (answer, state) := server.send command c.server
  (answer, { c with server := state, prepared := (c.prepared.use command.sql []).2 })

/-- Send an update once for each row of values, up to the first failure. -/
def executeAll (server : Server σ) (sql : String) :
    List (List SqlValue) → Connection σ → Except Error (List Nat) × Connection σ
  | [], c => (.ok [], c)
  | values :: rest, c =>
    match server.execute sql values c with
    | (.error error, c) => (.error error, c)
    | (.ok response, c) =>
      let (counts, c) := server.executeAll sql rest c
      (counts.map (response.affected :: ·), c)

/-- Begin a transaction, unless there is one. -/
def begin (server : Server σ) (c : Connection σ) : Except Error Unit × Connection σ :=
  if c.inTransaction then (.ok (), c)
  else
    match server.control .begin c with
    | (.ok _, c) => (.ok (), { c with inTransaction := true })
    | (.error error, c) => (.error error, c)

/-- End the transaction by the given command, if there is one. -/
def finish (server : Server σ) (command : Command) (c : Connection σ) :
    Except Error Unit × Connection σ :=
  if c.inTransaction then
    let (answer, c) := server.control command c
    (answer.map fun _ => (), { c with inTransaction := false })
  else (.ok (), c)

/-- Perform an operation.  The provider has one connection, which starts without
a transaction whenever it is acquired. -/
def perform (server : Server σ) :
    (operation : Operation) → Connection σ → Except Error operation.Answer × Connection σ
  | .acquire, c => (.ok (), { c with inTransaction := false })
  | .autoCommit true, c => server.finish .rollback c
  | .autoCommit false, c => server.begin c
  | .query sql values, c =>
    let (answer, c) := server.execute (Sql.numbered sql) values c
    (answer.bind Response.output, c)
  | .update sql values, c =>
    let (answer, c) := server.execute (Sql.numbered sql) values c
    (answer.map (·.affected), c)
  | .batch sql rows, c => server.executeAll (Sql.numbered sql) rows c
  | .commit, c => server.finish .commit c
  | .rollback, c => server.finish .rollback c
  | .close, c => (.ok (), c)

/-- The server as it is waited for, with the time its operations take. -/
def backend (server : Server σ) (elapsed : Operation → Duration) : Backend (Connection σ) :=
  .immediate server.perform elapsed

end Server

end NamedSql.Postgres
