import NamedSql.Postgres.WireType

/-!
# Prepared statements

A connection prepares every statement which it sends, and keeps the statements
it used last.  The types of the parameters are declared when a statement is
prepared: while it is kept, all later values are sent for the same types.
-/

namespace NamedSql.Postgres

/-- The statements which are kept, with the types of their parameters, the last
used first. -/
structure Prepared where
  statements : List (String × List WireType) := []

namespace Prepared

/-- Greatest number of statements which are kept. -/
def capacity : Nat := 100

/-- Use the statement of the given text, which is prepared for parameters of the
given types unless it is kept: the types it was prepared for. -/
def use (sql : String) (types : List WireType) (prepared : Prepared) :
    List WireType × Prepared :=
  let types := (prepared.statements.lookup sql).getD types
  let others := prepared.statements.filter (·.1 != sql)
  (types, ⟨((sql, types) :: others).take capacity⟩)

end Prepared

end NamedSql.Postgres
