import NamedSql.Error
import NamedSql.Json.Printer
import NamedSql.Kind
import NamedSql.SqlValue

/-!
# Binding

A strategy turns the document given for a placeholder into an SQL value.  It is
chosen once, from the declared kind of the placeholder and from whether the
placeholder stands where SQL expects an array.  The type of the values which a
strategy binds does not depend on the documents.
-/

namespace NamedSql

/-- How documents become SQL values. -/
inductive BindStrategy where
  /-- As a value of the type. -/
  | scalar (type : SqlType)
  /-- As the name of a variant. -/
  | enum
  /-- As compact JSON text. -/
  | json
  /-- As a native array of the type. -/
  | array (element : SqlType)
  /-- A list as compact JSON text. -/
  | jsonArray
deriving DecidableEq

namespace BindStrategy

/-- The strategy for a kind.  There is none for a list without a native array
in the context of an array. -/
def forKind? (kind : Kind) (arrayContext : Bool) : Option BindStrategy :=
  match kind with
  | .bool => some (.scalar .boolean)
  | .smallInt => some (.scalar .smallInt)
  | .integer => some (.scalar .integer)
  | .bigInt => some (.scalar .bigInt)
  | .double => some (.scalar .double)
  | .text => some (.scalar .varchar)
  | .uuid => some (.scalar .uuid)
  | .timestamp => some (.scalar .timestamp)
  | .enum _ => some .enum
  | .map | .json | .record _ _ => some .json
  | .list element =>
    match element.arrayType? with
    | some type => some (.array type)
    | none => if arrayContext then none else some .jsonArray

/-- The type of all values which the strategy binds. -/
def type : BindStrategy → ParameterType
  | .scalar type => .scalar type
  | .enum | .json | .jsonArray => .scalar .varchar
  | .array element => .array element

/-- The value of a scalar type which a document stands for, if it does. -/
def scalarValue? : SqlType → Json → Option SqlValue
  | .boolean, v => v.toBool?.map .bool
  | .smallInt, v => v.toInt16?.map .smallInt
  | .integer, v => v.toInt32?.map .integer
  | .bigInt, v => v.toInt64?.map .bigInt
  | .double, v => v.toDouble?.map .double
  | .varchar, v => v.toText?.map .text
  | .uuid, v => (v.toText?.bind Uuid.parse?).map .uuid
  | .timestamp, v => (v.toText?.bind Timestamp.parse?).map .timestamp

/-- The error of a document which cannot be bound. -/
def invalid (placeholder expected : String) (value : Json) : Error :=
  .invalidArgument placeholder expected value.compact

/-- Convert the items of an array, null items staying null.  The first item
which cannot be converted is the error. -/
def items {α : Type} (type : SqlType) (placeholder : String) (convert : Json → Option α)
    (values : List Json) : Except Error (List (Option α)) :=
  values.mapM fun value =>
    if value.isNull then .ok none
    else
      match convert value with
      | some item => .ok (some item)
      | none => .error (invalid placeholder type.name value)

/-- The native array of the given documents.  Only four types have arrays. -/
def arrayValue (type : SqlType) (placeholder : String) (values : List Json) :
    Except Error SqlArray :=
  match type with
  | .bigInt => .bigInt <$> items type placeholder Json.toInt64? values
  | .integer => .integer <$> items type placeholder Json.toInt32? values
  | .varchar => .varchar <$> items type placeholder Json.toText? values
  | .uuid => .uuid <$> items type placeholder (fun v => v.toText?.bind Uuid.parse?) values
  | other => .error (.unsupportedArrayType placeholder other.name)

/-- Convert the document given for a placeholder. -/
def bind (strategy : BindStrategy) (placeholder : String) (value : Json) :
    Except Error SqlValue :=
  match strategy, value with
  | .scalar type, .null => .ok (.null type)
  | .scalar type, value =>
    match scalarValue? type value with
    | some bound => .ok bound
    | none => .error (invalid placeholder type.name value)
  | .enum, .null => .ok (.null .varchar)
  | .enum, .str name => .ok (.text name)
  | .enum, .obj [(name, _)] => .ok (.text name)
  | .enum, value => .error (invalid placeholder "enum" value)
  | .json, .null | .jsonArray, .null => .ok (.null .varchar)
  | .json, value | .jsonArray, value => .ok (.text value.compact)
  | .array element, .null => .ok (.nullArray element)
  | .array element, .arr values => .array <$> arrayValue element placeholder values
  | .array element, value => .error (invalid placeholder element.name value)

end BindStrategy

end NamedSql
