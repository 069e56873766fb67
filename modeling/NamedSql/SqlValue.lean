import NamedSql.Number.Double
import NamedSql.SqlType
import NamedSql.Time.Timestamp
import NamedSql.Uuid

/-!
# SQL values

Values bound to the positions of a statement.  Every value has a type, also one
which is null.
-/

namespace NamedSql

/-- A native array, whose items may be null. -/
inductive SqlArray where
  | bigInt (items : List (Option Int64))
  | integer (items : List (Option Int32))
  | varchar (items : List (Option String))
  | uuid (items : List (Option Uuid))
deriving DecidableEq

namespace SqlArray

/-- The type of the items. -/
def elementType : SqlArray → SqlType
  | .bigInt _ => .bigInt
  | .integer _ => .integer
  | .varchar _ => .varchar
  | .uuid _ => .uuid

/-- Number of items. -/
def length : SqlArray → Nat
  | .bigInt items => items.length
  | .integer items => items.length
  | .varchar items => items.length
  | .uuid items => items.length

end SqlArray

/-- A value bound to a position. -/
inductive SqlValue where
  | null (type : SqlType)
  | nullArray (element : SqlType)
  | bool (value : Bool)
  | smallInt (value : Int16)
  | integer (value : Int32)
  | bigInt (value : Int64)
  | double (value : Double)
  | text (value : String)
  | uuid (value : Uuid)
  | timestamp (value : Timestamp)
  | array (items : SqlArray)
deriving DecidableEq

/-- The type of a value. -/
def SqlValue.type : SqlValue → ParameterType
  | .null type => .scalar type
  | .nullArray element => .array element
  | .bool _ => .scalar .boolean
  | .smallInt _ => .scalar .smallInt
  | .integer _ => .scalar .integer
  | .bigInt _ => .scalar .bigInt
  | .double _ => .scalar .double
  | .text _ => .scalar .varchar
  | .uuid _ => .scalar .uuid
  | .timestamp _ => .scalar .timestamp
  | .array items => .array items.elementType

end NamedSql
