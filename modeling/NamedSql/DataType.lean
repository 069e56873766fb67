import NamedSql.Kind
import NamedSql.Json.Reread
import NamedSql.Time.Timestamp
import NamedSql.Uuid

/-!
# Data types

The types of values which are passed as arguments and read back from rows.
Each has a kind, and each accepts some documents.  A document which is accepted
is given back in the form in which the value is written.
-/

namespace NamedSql

/-- A type of values. -/
inductive DataType where
  | bool
  | int16
  | int32
  | int64
  | double
  | text
  | uuid
  | timestamp
  /-- Any document. -/
  | json
  /-- A value which may be absent. -/
  | option (value : DataType)
  | list (element : DataType)
  /-- A map from names. -/
  | map (value : DataType)
  | enum (name : String) (variants : List String)
  | record (name : String) (fields : List (String × DataType))
deriving Inhabited

namespace DataType

mutual

/-- The declared kind of the type. -/
def kind : DataType → Kind
  | .bool => .bool
  | .int16 => .smallInt
  | .int32 => .integer
  | .int64 => .bigInt
  | .double => .double
  | .text => .text
  | .uuid => .uuid
  | .timestamp => .timestamp
  | .json => .json
  | .option value => value.kind
  | .list element => .list element.kind
  | .map _ => .map
  | .enum name _ => .enum name
  | .record name fields => .record name (properties fields)

/-- The properties of a record with the given fields. -/
def properties : List (String × DataType) → List Property
  | [] => []
  | (name, type) :: rest => (name, type.kind) :: properties rest

end

/-- Whether a field of the type may be missing. -/
def isOptional : DataType → Bool
  | .option _ => true
  | _ => false

/-- A variant given by its name, alone or as the name of a null member. -/
def variant? (variants : List String) : Json → Option Json
  | .str name | .obj [(name, .null)] => if variants.contains name then some (.str name) else none
  | _ => none

mutual

/-- Accept a document as a value of the type, in the form in which the value is
written. -/
def accept? : DataType → Json → Option Json
  | .bool, v => v.toBool?.map .bool
  | .int16, v => v.toInt16?.map fun n => .int n.toInt
  | .int32, v => v.toInt32?.map fun n => .int n.toInt
  | .int64, v => v.toInt64?.map fun n => .int n.toInt
  | .double, v => v.toDouble?.map .double
  | .text, v => v.toText?.map .str
  | .uuid, v => (v.toText?.bind Uuid.parse?).map fun u => .str u.text
  | .timestamp, v => (v.toText?.bind Timestamp.parseLenient?).map fun t => .str t.text
  | .json, v => v.reread?
  | .option _, .null => some .null
  | .option value, v => value.accept? v
  | .list element, .arr items => (items.mapM element.accept?).map .arr
  | .map value, .obj members =>
    (members.mapM fun member => (value.accept? member.2).map (Prod.mk member.1)).map Json.object
  | .enum _ variants, v => variant? variants v
  | .record _ fields, .obj members => (acceptMembers? fields members).map Json.object
  | .record _ fields, .arr items => (acceptItems? fields items).map Json.object
  | _, _ => none

/-- Accept the members of an object as fields.  Other members are ignored, and
only optional fields may be missing. -/
def acceptMembers? : List (String × DataType) → List (String × Json) →
    Option (List (String × Json))
  | [], _ => some []
  | (name, type) :: rest, members => do
    let value ←
      match members.lookup name with
      | some v => type.accept? v
      | none => if type.isOptional then some .null else none
    let values ← acceptMembers? rest members
    some ((name, value) :: values)

/-- Accept the items of an array as fields, one for each. -/
def acceptItems? : List (String × DataType) → List Json → Option (List (String × Json))
  | [], [] => some []
  | (name, type) :: rest, item :: items => do
    let value ← type.accept? item
    let values ← acceptItems? rest items
    some ((name, value) :: values)
  | _, _ => none

end

end DataType

end NamedSql
