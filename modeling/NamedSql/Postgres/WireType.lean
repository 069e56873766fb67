import NamedSql.Number.Double
import NamedSql.SqlType
import NamedSql.Uuid

/-!
# Types of the server

Every parameter and every column has a type of the server.  The types which are
told apart here are those whose values can be bound or read; all others are
known by name only.
-/

namespace NamedSql.Postgres

/-- A type of the server. -/
inductive WireType where
  | bool
  | int2
  | int4
  | int8
  | float4
  | float8
  | text
  | varchar
  | char
  | name
  | unknown
  | uuid
  | timestamptz
  | timestamp
  | json
  | jsonb
  | int4Array
  | int8Array
  | textArray
  | varcharArray
  | uuidArray
  /-- A type whose values are not read. -/
  | other (display : String)
deriving DecidableEq

namespace WireType

/-- The name which the server gives the type. -/
def display : WireType → String
  | .bool => "BOOL"
  | .int2 => "INT2"
  | .int4 => "INT4"
  | .int8 => "INT8"
  | .float4 => "FLOAT4"
  | .float8 => "FLOAT8"
  | .text => "TEXT"
  | .varchar => "VARCHAR"
  | .char => "CHAR"
  | .name => "NAME"
  | .unknown => "UNKNOWN"
  | .uuid => "UUID"
  | .timestamptz => "TIMESTAMPTZ"
  | .timestamp => "TIMESTAMP"
  | .json => "JSON"
  | .jsonb => "JSONB"
  | .int4Array => "INT4[]"
  | .int8Array => "INT8[]"
  | .textArray => "TEXT[]"
  | .varcharArray => "VARCHAR[]"
  | .uuidArray => "UUID[]"
  | .other display => display

/-- The types whose values are read. -/
def readable : List WireType :=
  [.bool, .int2, .int4, .int8, .float4, .float8, .text, .varchar, .char, .name, .unknown, .uuid,
    .timestamptz, .timestamp, .json, .jsonb, .int4Array, .int8Array, .textArray, .varcharArray,
    .uuidArray]

/-- The type of the given name. -/
def ofName (name : String) : WireType :=
  (readable.find? (·.display == name)).getD (.other name)

/-- The values of a type. -/
@[reducible]
def Value : WireType → Type
  | .bool => Bool
  | .int2 => Int16
  | .int4 => Int32
  | .int8 => Int64
  -- Infinities and NaN have no number.
  | .float4 | .float8 => Option Double
  | .text | .varchar | .char | .name | .unknown => String
  | .uuid => Uuid
  -- Microseconds from the start of 2000.
  | .timestamptz | .timestamp => Int
  -- The text of a document.
  | .json | .jsonb => String
  | .int4Array => List (Option Int32)
  | .int8Array => List (Option Int64)
  | .textArray | .varcharArray => List (Option String)
  | .uuidArray => List (Option Uuid)
  | .other _ => Unit

/-- The type of parameters of a scalar type. -/
def ofScalar : SqlType → WireType
  | .boolean => .bool
  | .smallInt => .int2
  | .integer => .int4
  | .bigInt => .int8
  | .double => .float8
  | .varchar => .text
  | .uuid => .uuid
  | .timestamp => .timestamptz

/-- The type of parameters which are arrays.  Arrays of types without native
arrays, which are always null, stand in as arrays of integers. -/
def ofArray : SqlType → WireType
  | .integer => .int4Array
  | .varchar => .textArray
  | .uuid => .uuidArray
  | _ => .int8Array

/-- The type of parameters. -/
def ofParameter : ParameterType → WireType
  | .scalar type => ofScalar type
  | .array element => ofArray element

end WireType

end NamedSql.Postgres
