import NamedSql.Json.Embedded
import NamedSql.Json.Lexer

/-!
# Raw JSON

JSON text which has the right form, before it is known to denote a document.
The members of objects stand in the order in which they are written, repeated
names included.  A scalar may have no value, and arrays and objects may be nested
deeper than in any document which is read.
-/

namespace NamedSql.Json

/-- What has the form of a document. -/
inductive Raw where
  | scalar (value : Option Json)
  | arr (items : List Raw)
  | obj (members : List (Option String × Raw))
deriving Inhabited

namespace Raw

/-- The text, of a string only. -/
def text? : Raw → Option String
  | .scalar (some (.str text)) => some text
  | _ => none

mutual

/-- The document which is denoted, where `embedded?` reads embedded text.  Of
repeated names the last one counts. -/
def value? (embedded? : String → Option Json) : Raw → Option Json
  | .scalar value => value
  | .arr items => (itemValues? embedded? items).map .arr
  | .obj members =>
    match embeddedText? (some embeddedName) text? members with
    | some text => text.bind embedded?
    | none => (memberValues? embedded? members).map Json.object

/-- The documents which items denote. -/
def itemValues? (embedded? : String → Option Json) : List Raw → Option (List Json)
  | [] => some []
  | item :: rest => do
    let value ← item.value? embedded?
    let values ← itemValues? embedded? rest
    some (value :: values)

/-- The names and documents which members denote. -/
def memberValues? (embedded? : String → Option Json) :
    List (Option String × Raw) → Option (List (String × Json))
  | [] => some []
  | (name, item) :: rest => do
    let name ← name
    let value ← item.value? embedded?
    let values ← memberValues? embedded? rest
    some ((name, value) :: values)

end

mutual

/-- How many arrays and objects are within each other. -/
def depth : Raw → Nat
  | .scalar _ => 0
  | .arr items => itemsDepth items + 1
  | .obj members => membersDepth members + 1

/-- The greatest depth of items. -/
def itemsDepth : List Raw → Nat
  | [] => 0
  | item :: rest => max item.depth (itemsDepth rest)

/-- The greatest depth of members. -/
def membersDepth : List (Option String × Raw) → Nat
  | [] => 0
  | (_, item) :: rest => max item.depth (membersDepth rest)

end

end Raw

end NamedSql.Json
