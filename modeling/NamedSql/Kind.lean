import NamedSql.SqlType

/-!
# Declared kinds

A kind is the declared shape of a parameter, of a record's property or of a
result.  How values are bound and read back follows from kinds alone, never
from the values themselves.
-/

namespace NamedSql

/-- A declared shape of values. -/
inductive Kind where
  | bool
  | smallInt
  | integer
  | bigInt
  | double
  | text
  | uuid
  | timestamp
  /-- Named variants, each standing for itself. -/
  | enum (name : String)
  /-- A map from names to values. -/
  | map
  /-- Any document. -/
  | json
  /-- Properties of given names.  Names may repeat: the first one counts. -/
  | record (name : String) (properties : List (String × Kind))
  | list (element : Kind)
deriving Inhabited

/-- A named property of a record. -/
abbrev Property := String × Kind

/-- A named parameter of a method. -/
abbrev Parameter := String × Kind

namespace Kind

/-- How a kind is displayed. -/
def display : Kind → String
  | .bool => "bool"
  | .smallInt => "i16"
  | .integer => "i32"
  | .bigInt => "i64"
  | .double => "f64"
  | .text => "String"
  | .uuid => "Uuid"
  | .timestamp => "DateTime"
  | .enum name => name
  | .map => "Map"
  | .json => "Json"
  | .record name _ => name
  | .list element => "Vec<" ++ element.display ++ ">"

/-- The element type of native arrays of this kind, if there are any. -/
def arrayType? : Kind → Option SqlType
  | .bigInt => some .bigInt
  | .integer => some .integer
  | .text | .enum _ => some .varchar
  | .uuid => some .uuid
  | _ => none

/-- Whether values travel to and from the database as JSON text: documents,
and lists without a native array. -/
def isJsonShaped : Kind → Bool
  | .map | .json | .record _ _ => true
  | .list element => element.arrayType?.isNone
  | _ => false

/-- Whether the kind is that of lists. -/
def isList : Kind → Bool
  | .list _ => true
  | _ => false

end Kind

namespace Property

/-- The first property of a name. -/
def find? (properties : List Property) (name : String) : Option Property :=
  properties.find? (·.1 == name)

/-- The first property of a name, if it is a boolean. -/
def findBool? (properties : List Property) (name : String) : Option Property :=
  match find? properties name with
  | some (name, .bool) => some (name, .bool)
  | _ => none

/-- The property which a segment of a placeholder addresses: the one of that
name, else the boolean of that name after `is_`, else the one of that name
after `get_`. -/
def resolve? (properties : List Property) (segment : String) : Option Property :=
  find? properties segment
    <|> findBool? properties ("is_" ++ segment)
    <|> find? properties ("get_" ++ segment)

end Property

/-- A method's name with its parameters and their kinds. -/
def signature (method : String) (parameters : List Parameter) : String :=
  let declared := parameters.map fun (name, kind) => name ++ ": " ++ kind.display
  method ++ "(" ++ ", ".intercalate declared ++ ")"

end NamedSql
