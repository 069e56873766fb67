import NamedSql.Json.Parser

/-!
# Reading documents again

A document which was composed of parts is read like text before it is accepted
as a value.  The members of its objects now come in the order of their names, so
that objects may start with the reserved name which did not in any text.
-/

namespace NamedSql.Json

mutual

/-- The document which a document denotes: itself, unless an object in it starts
with the reserved name. -/
def reread? : Json → Option Json
  | .arr items => (rereadItems? items).map .arr
  | .obj members =>
    match embeddedText? embeddedName toText? members with
    | some text => text.bind parse?
    | none => (rereadMembers? members).map .obj
  | value => some value

/-- The documents which items denote. -/
def rereadItems? : List Json → Option (List Json)
  | [] => some []
  | item :: rest => do
    let value ← item.reread?
    let values ← rereadItems? rest
    some (value :: values)

/-- The members with the documents which their values denote. -/
def rereadMembers? : List (String × Json) → Option (List (String × Json))
  | [] => some []
  | (name, item) :: rest => do
    let value ← item.reread?
    let values ← rereadMembers? rest
    some ((name, value) :: values)

end

end NamedSql.Json
