import NamedSql.Postgres.Datum

/-!
# Binary formats

A value is sent in the binary format of its own type, but read in the format of
the type which its parameter was declared with.  Integers of all widths and
points in time are read alike, and so are texts of all kinds; otherwise the bytes
mean what they happen to mean in the declared type.
-/

namespace NamedSql.Postgres

/-- The last bytes of a number, the most significant first. -/
def numberBytes : (width : Nat) → Nat → List UInt8
  | 0, _ => []
  | width + 1, n => numberBytes width (n / 256) ++ [UInt8.ofNat n]

/-- The number which bytes denote. -/
def bytesNumber (bytes : List UInt8) : Nat :=
  bytes.foldl (fun n byte => 256 * n + byte.toNat) 0

/-- The integer which bytes denote in two's complement. -/
def bytesInteger (bytes : List UInt8) : Int :=
  let n := bytesNumber bytes
  let modulus := 1 <<< (8 * bytes.length)
  if 2 * n < modulus then n else (n : Int) - modulus

/-- What is sent for a value: bytes for a scalar, and bytes or null for every
item of an array. -/
inductive Binary where
  | null
  | scalar (bytes : List UInt8)
  | array (items : List (Option (List UInt8)))

namespace Binary

/-- The bytes of text. -/
def textBytes (text : String) : List UInt8 :=
  text.toUTF8.data.toList

/-- The bytes of a UUID. -/
def uuidBytes (uuid : Uuid) : List UInt8 :=
  numberBytes 16 uuid.bits.toNat

/-- What is sent for the items of an array. -/
def ofItems {α : Type} (bytes : α → List UInt8) (items : List (Option α)) : Binary :=
  .array (items.map (·.map bytes))

/-- What is sent for a bound value. -/
def ofValue : SqlValue → Binary
  | .null _ | .nullArray _ => .null
  | .bool value => .scalar [if value then 1 else 0]
  | .smallInt value => .scalar (numberBytes 2 value.toUInt16.toNat)
  | .integer value => .scalar (numberBytes 4 value.toUInt32.toNat)
  | .bigInt value => .scalar (numberBytes 8 value.toUInt64.toNat)
  | .double value => .scalar (numberBytes 8 value.bits)
  | .text value => .scalar (textBytes value)
  | .uuid value => .scalar (uuidBytes value)
  | .timestamp value =>
    .scalar (numberBytes 8 (Int64.ofInt (Datum.microsecondsOf value)).toUInt64.toNat)
  | .array (.bigInt items) => ofItems (fun item => numberBytes 8 item.toUInt64.toNat) items
  | .array (.integer items) => ofItems (fun item => numberBytes 4 item.toUInt32.toNat) items
  | .array (.varchar items) => ofItems textBytes items
  | .array (.uuid items) => ofItems uuidBytes items

end Binary

/-- What is read for a parameter. -/
inductive Reading where
  | null
  | truth (value : Bool)
  | integer (value : Int)
  /-- A floating-point number, by its bits. -/
  | bits (value : Nat)
  | text (value : String)
  | uuid (value : Uuid)
  | list (items : List Reading)
  /-- The bytes have no meaning in the declared type. -/
  | unreadable

namespace WireType

/-- The type of the items of an array. -/
def element? : WireType → Option WireType
  | .int4Array => some .int4
  | .int8Array => some .int8
  | .textArray => some .text
  | .varcharArray => some .varchar
  | .uuidArray => some .uuid
  | _ => none

/-- Read bytes as a scalar of the type. -/
def readScalar (type : WireType) (bytes : List UInt8) : Reading :=
  match type with
  | .bool => .truth (bytes.any (· != 0))
  | .int2 | .int4 | .int8 | .timestamptz | .timestamp => .integer (bytesInteger bytes)
  | .float4 | .float8 => .bits (bytesNumber bytes)
  | .text | .varchar | .char | .name | .unknown | .json | .jsonb =>
    ((String.fromUTF8? ⟨bytes.toArray⟩).map Reading.text).getD .unreadable
  | .uuid =>
    if bytes.length = 16 then .uuid ⟨BitVec.ofNat 128 (bytesNumber bytes)⟩ else .unreadable
  | .int4Array | .int8Array | .textArray | .varcharArray | .uuidArray | .other _ => .unreadable

/-- Read what was sent as a value of the type. -/
def read (type : WireType) : Binary → Reading
  | .null => .null
  | .scalar bytes => type.readScalar bytes
  | .array items =>
    match type.element? with
    | some element =>
      .list (items.map fun
        | some bytes => element.readScalar bytes
        | none => .null)
    | none => .unreadable

end WireType

end NamedSql.Postgres
