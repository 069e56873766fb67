/-!
# SQL types

The types which values are bound as.
-/

namespace NamedSql

/-- A scalar type of the database. -/
inductive SqlType where
  | boolean
  | smallInt
  | integer
  | bigInt
  | double
  | varchar
  | uuid
  | timestamp
deriving DecidableEq

namespace SqlType

/-- The name which the database knows the type by. -/
def name : SqlType → String
  | .boolean => "boolean"
  | .smallInt => "smallint"
  | .integer => "integer"
  | .bigInt => "bigint"
  | .double => "double precision"
  | .varchar => "varchar"
  | .uuid => "uuid"
  | .timestamp => "timestamptz"

/-- Whether the database has native arrays of the type. -/
def hasArrays : SqlType → Bool
  | .bigInt | .integer | .varchar | .uuid => true
  | _ => false

end SqlType

/-- The type of a bound value: a scalar, or an array of scalars. -/
inductive ParameterType where
  | scalar (type : SqlType)
  | array (element : SqlType)
deriving DecidableEq

end NamedSql
