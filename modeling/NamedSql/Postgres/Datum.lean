import NamedSql.Json.Parser
import NamedSql.Postgres.WireType
import NamedSql.SqlValue

/-!
# Data on the wire

A datum is a value of some type of the server, or null.  Bound values are data
of the types which they are sent as, and the columns of a row are data which are
read back as documents.
-/

namespace NamedSql.Postgres

/-- A value of the given type; none is null. -/
structure Datum where
  type : WireType
  value : Option type.Value

namespace Datum

/-- Seconds from the start of 1970 to the start of 2000. -/
def epoch : Int := 946684800

/-- Microseconds from the start of 2000 to a point in time, rounded towards the
start of 2000. -/
def microsecondsOf (t : Timestamp) : Int :=
  ((t.seconds - epoch) * 1000000000 + t.nanoseconds).tdiv 1000

/-- The point in time which is a number of microseconds after the start of
2000. -/
def timestampOf (microseconds : Int) : Timestamp :=
  .ofNanoseconds (epoch * 1000000000 + microseconds * 1000)

/-- The datum which a bound value is. -/
def ofValue : SqlValue → Datum
  | .null type => ⟨.ofScalar type, none⟩
  | .nullArray element => ⟨.ofArray element, none⟩
  | .bool value => ⟨.bool, some value⟩
  | .smallInt value => ⟨.int2, some value⟩
  | .integer value => ⟨.int4, some value⟩
  | .bigInt value => ⟨.int8, some value⟩
  | .double value => ⟨.float8, some (some value)⟩
  | .text value => ⟨.text, some value⟩
  | .uuid value => ⟨.uuid, some value⟩
  | .timestamp value => ⟨.timestamptz, some (microsecondsOf value)⟩
  | .array (.bigInt items) => ⟨.int8Array, some items⟩
  | .array (.integer items) => ⟨.int4Array, some items⟩
  | .array (.varchar items) => ⟨.textArray, some items⟩
  | .array (.uuid items) => ⟨.uuidArray, some items⟩

/-- The document of an item which may be null. -/
def itemJson {α : Type} (toJson : α → Json) : Option α → Json
  | some item => toJson item
  | none => .null

/-- The document of a list of items which may be null. -/
def listJson {α : Type} (toJson : α → Json) (items : List (Option α)) : Json :=
  .arr (items.map (itemJson toJson))

/-- The document of a value which is not null, if it has one.  Numbers which are
not finite have the document null. -/
def valueJson? : (type : WireType) → type.Value → Option Json
  | .bool, value => some (.bool value)
  | .int2, value => some (.int value.toInt)
  | .int4, value => some (.int value.toInt)
  | .int8, value => some (.int value.toInt)
  | .float4, value => some (itemJson .double (value.bind Double.toSingle?))
  | .float8, value => some (itemJson .double value)
  | .text, value | .varchar, value | .char, value | .name, value | .unknown, value =>
    some (.str value)
  | .uuid, value => some (.str value.text)
  | .timestamptz, value => some (.str (timestampOf value).text)
  | .timestamp, value => some (.str (timestampOf value).localText)
  | .json, value | .jsonb, value => Json.parse? value
  | .int4Array, items => some (listJson (fun item => .int item.toInt) items)
  | .int8Array, items => some (listJson (fun item => .int item.toInt) items)
  | .textArray, items | .varcharArray, items => some (listJson .str items)
  | .uuidArray, items => some (listJson (fun item => .str item.text) items)
  | .other _, _ => none

/-- The document of a datum, if it has one.  Null has one in every type. -/
def json? (datum : Datum) : Option Json :=
  match datum.value with
  | none => some .null
  | some value => valueJson? datum.type value

end Datum

end NamedSql.Postgres
