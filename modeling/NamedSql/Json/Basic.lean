import NamedSql.Number.Double

/-!
# JSON documents

The values which call arguments and result rows are made of.  An integer is a
number of its own kind: a double is never taken for an integer, whatever its
value.  The members of an object are kept in strictly increasing order of their
names, so that two objects with the same members are equal.
-/

namespace NamedSql

/-- A JSON document. -/
inductive Json where
  | null
  | bool (value : Bool)
  | int (value : Int)
  | double (value : Double)
  | str (value : String)
  | arr (items : List Json)
  | obj (members : List (String × Json))
deriving Inhabited

namespace Json

/-- Insert a member at its place in the order of names, replacing a member of
the same name. -/
def insert (name : String) (value : Json) : List (String × Json) → List (String × Json)
  | [] => [(name, value)]
  | (other, old) :: rest =>
    if name < other then (name, value) :: (other, old) :: rest
    else if name = other then (name, value) :: rest
    else (other, old) :: insert name value rest

/-- The object with the given members, of which the last of each name counts. -/
def object (members : List (String × Json)) : Json :=
  .obj (members.foldl (fun ordered member => insert member.1 member.2 ordered) [])

/-- The value of a member of an object. -/
def get? (name : String) : Json → Option Json
  | .obj members => members.lookup name
  | _ => none

/-- Whether the document is null. -/
def isNull : Json → Bool
  | .null => true
  | _ => false

/-- The truth value, of a boolean only. -/
def toBool? : Json → Option Bool
  | .bool b => some b
  | _ => none

/-- The text, of a string only. -/
def toText? : Json → Option String
  | .str s => some s
  | _ => none

/-- The integer, if the document is an integer from `low` to `high`. -/
def toIntIn? (low high : Int) : Json → Option Int
  | .int n => if low ≤ n ∧ n ≤ high then some n else none
  | _ => none

/-- The integer, if it fits in 16 bits. -/
def toInt16? (v : Json) : Option Int16 :=
  (v.toIntIn? (-32768) 32767).map Int16.ofInt

/-- The integer, if it fits in 32 bits. -/
def toInt32? (v : Json) : Option Int32 :=
  (v.toIntIn? (-2147483648) 2147483647).map Int32.ofInt

/-- The integer, if it fits in 64 bits. -/
def toInt64? (v : Json) : Option Int64 :=
  (v.toIntIn? (-9223372036854775808) 9223372036854775807).map Int64.ofInt

/-- Any number as a double, integers being rounded to the nearest. -/
def toDouble? : Json → Option Double
  | .double x => some x
  | .int n => Double.ofInt? n
  | _ => none

end Json

end NamedSql
