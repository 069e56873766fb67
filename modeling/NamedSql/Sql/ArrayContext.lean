import NamedSql.Text.Blank

/-!
# Array contexts

SQL expects an array within the parentheses of `=ANY(…)` and `!=ALL(…)`.
-/

namespace NamedSql.Sql

/-- Whether text, given from its end, ends with an equals sign, `ANY` or `ALL`,
and an opening parenthesis, with any blanks after each of them. -/
def isArrayContext (reversed : List Char) : Bool :=
  match Text.trimStart reversed with
  | '(' :: rest =>
    match Text.trimStart rest with
    | 'Y' :: 'N' :: 'A' :: rest | 'L' :: 'L' :: 'A' :: rest =>
      (Text.trimStart rest).head? == some '='
    | _ => false
  | _ => false

end NamedSql.Sql
