import NamedSql.Sql.Quotation

/-!
# Numbered placeholders

Some databases number the positions of a statement: `$1`, `$2` and so on take
the place of question marks.  Quotations stay as they are.
-/

namespace NamedSql.Sql

/-- Number the question marks outside quotations, from a state and a count of
earlier ones on. -/
def numberFrom : Quotation → Nat → List Char → List Char
  | _, _, [] => []
  | state, count, c :: rest =>
    if state = .outside ∧ c = '?' then
      '$' :: (Nat.toDigits 10 (count + 1) ++ numberFrom state (count + 1) rest)
    else c :: numberFrom (state.step c) count rest

/-- Number the positions of SQL text. -/
def numbered (sql : String) : String :=
  String.ofList (numberFrom .outside 0 sql.toList)

end NamedSql.Sql
