import NamedSql.Connection
import NamedSql.Text.Search

/-!
# A database in memory

A database which answers every query with the same rows and every update with a
count of its own, and which fails on request.  Acquiring a connection and
executing statements suspend once before they do anything.
-/

namespace NamedSql.Session

/-- Operations which fail on request. -/
inductive FailPoint where
  | acquire
  | autoCommitOn
  | autoCommitOff
  | commit
  | rollback
  | close
deriving DecidableEq

/-- Name of an operation in its failure. -/
def FailPoint.name : FailPoint → String
  | .acquire => "acquire"
  | .autoCommitOn => "auto_commit_on"
  | .autoCommitOff => "auto_commit_off"
  | .commit => "commit"
  | .rollback => "rollback"
  | .close => "close"

/-- A database in memory. -/
structure Database where
  /-- The output of every query. -/
  rows : Output := ⟨0, [], []⟩
  /-- Statements with this text in them fail. -/
  failOn : Option String := none
  failing : List FailPoint := []
  /-- How many counts a batch returns beyond one for each row. -/
  batchDelta : Int := 0
  /-- Number of counts returned so far. -/
  counter : Nat := 0

namespace Database

/-- The failure of what was asked. -/
def failure (what : String) : Error :=
  .sql (.invalidData ("boom: " ++ what))

/-- Succeed unless the operation fails on request. -/
def pass (point : FailPoint) (db : Database) : Except Error Unit :=
  if db.failing.contains point then .error (failure point.name) else .ok ()

/-- Whether a statement fails on request. -/
def fails (sql : String) (db : Database) : Bool :=
  db.failOn.any (Text.contains sql)

/-- The next counts. -/
def counts (number : Nat) (db : Database) : List Nat × Database :=
  ((List.range number).map (db.counter + 1 + ·), { db with counter := db.counter + number })

/-- Perform an operation. -/
def perform : (operation : Operation) → Database → Except Error operation.Answer × Database
  | .acquire, db => (db.pass .acquire, db)
  | .autoCommit true, db => (db.pass .autoCommitOn, db)
  | .autoCommit false, db => (db.pass .autoCommitOff, db)
  | .query sql _, db => (if db.fails sql then .error (failure sql) else .ok db.rows, db)
  | .update sql _, db =>
    if db.fails sql then (.error (failure sql), db)
    else (.ok (db.counter + 1), (db.counts 1).2)
  | .batch sql rows, db =>
    if db.fails sql then (.error (failure sql), db)
    else
      let (counts, db) := db.counts (rows.length + db.batchDelta).toNat
      (.ok counts, db)
  | .commit, db => (db.pass .commit, db)
  | .rollback, db => (db.pass .rollback, db)
  | .close, db => (db.pass .close, db)

/-- Every operation takes the shortest time there is. -/
def elapsed (_ : Operation) : Duration :=
  ⟨1⟩

/-- The database as it is polled. -/
def backend : Backend Database :=
  .suspending Operation.isSlow perform elapsed

/-- The database as it is waited for. -/
def awaited : Backend Database :=
  .immediate perform elapsed

end Database

end NamedSql.Session
