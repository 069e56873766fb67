import NamedSql.Postgres.Connection
import NamedSql.Proofs.Transaction.Calls

/-!
# Stores

A store is a durable database with the working copy of the transaction which is open, if one is.
A server over a store opens a copy when a transaction begins, changes the copy by the statements
of the transaction, and publishes or discards it at the end.  Without a transaction, every
statement changes the durable database.
-/

namespace NamedSql.Postgres

variable {δ : Type}

/-- A durable database, and the working copy of the transaction which is open. -/
structure Store (δ : Type) where
  durable : δ
  /-- The databases which were durable before, the last one first. -/
  superseded : List δ := []
  working : Option δ := none
  /-- The commands which were sent, in order. -/
  sent : List Command := []

namespace Store

/-- Make a database durable, and end the transaction. -/
def publish (database : δ) (store : Store δ) : Store δ :=
  { store with
    durable := database
    superseded := store.durable :: store.superseded
    working := none }

/-- Open a working copy, unless there is one. -/
def openCopy (store : Store δ) : Store δ :=
  { store with working := some (store.working.getD store.durable) }

/-- End the transaction without its working copy. -/
def discard (store : Store δ) : Store δ :=
  { store with working := none }

/-- Make the working copy durable, if there is one. -/
def commit (store : Store δ) : Store δ :=
  match store.working with
  | some copy => store.publish copy
  | none => store

/-- Change the working copy if there is one, and the durable database otherwise. -/
def change (effect : δ → δ) (store : Store δ) : Store δ :=
  match store.working with
  | some copy => { store with working := some (effect copy) }
  | none => store.publish (effect store.durable)

end Store

/-- What commands do to a database, and how they are answered.  The answers are free: any
commands may fail, whatever the store is and whatever was sent before. -/
structure Engine (δ : Type) where
  effect : Command → δ → δ
  answer : Command → Store δ → Except Error Response

namespace Engine

/-- A store after a command which succeeded. -/
def succeed (engine : Engine δ) (store : Store δ) : Command → Store δ
  | .begin => store.openCopy
  | .commit => store.commit
  | .rollback => store.discard
  | .statement sql types values => store.change (engine.effect (.statement sql types values))

/-- A store after a command which failed: the end of a transaction ends it all the same. -/
def fail (store : Store δ) : Command → Store δ
  | .begin | .statement .. => store
  | .commit | .rollback => store.discard

/-- The server over a store. -/
def server (engine : Engine δ) : Server (Store δ) where
  send command store :=
    let answer := engine.answer command store
    let after :=
      match answer with
      | .ok _ => engine.succeed store command
      | .error _ => fail store command
    (answer, { after with sent := store.sent ++ [command] })

/-- Execute a statement on a database, prepared as on a connection with the given prepared
statements. -/
def apply (engine : Engine δ) (progress : Prepared × δ) : NamedSql.Command → Prepared × δ
  | (_, sql, values) =>
    let text := Sql.numbered sql
    let (types, prepared) :=
      progress.1.use text (values.map fun value => .ofParameter value.type)
    (prepared, engine.effect (.statement text types values) progress.2)

/-- Execute statements on a database, in order. -/
def applyAll (engine : Engine δ) (commands : List NamedSql.Command) (progress : Prepared × δ) :
    Prepared × δ :=
  commands.foldl engine.apply progress

/-- The database after statements in a transaction: the connection has prepared the command
which begins it before them. -/
def transacted (engine : Engine δ) (commands : List NamedSql.Command)
    (c : Connection (Store δ)) : δ :=
  (engine.applyAll commands ((c.prepared.use Command.begin.sql []).2, c.server.durable)).2

end Engine

end NamedSql.Postgres
