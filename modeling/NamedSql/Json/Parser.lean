import NamedSql.Json.Raw

/-!
# Reading JSON text

Lexemes are read one by one, with a stack of the arrays and objects which are
still open.  The result is raw; a document is what it denotes, if it denotes one
and is not nested too deep.
-/

namespace NamedSql.Json

/-- An array or object which is still open, with its parts so far, the last
of them first. -/
inductive Frame where
  | array (items : List Raw)
  | object (members : List (Option String × Raw))
  /-- An object which waits for the value of its next member. -/
  | member (members : List (Option String × Raw)) (name : Option String)

/-- What may come next. -/
inductive Expected where
  | value
  /-- An item, or the end of an empty array. -/
  | firstItem
  /-- A name, or the end of an empty object. -/
  | firstName
  | name
  | colon (name : Option String)
  /-- A comma or closing bracket after a complete value, or the end of text. -/
  | next (value : Raw)

/-- A point in the course of reading. -/
structure Reading where
  expected : Expected
  frames : List Frame

/-- Read one lexeme. -/
def Reading.step (reading : Reading) (lexeme : Lexeme) : Option Reading :=
  match reading.expected, lexeme, reading.frames with
  | .value, .scalar v, frames | .firstItem, .scalar v, frames =>
    some ⟨.next (.scalar v), frames⟩
  | .value, .string text, frames | .firstItem, .string text, frames =>
    some ⟨.next (.scalar (text.map .str)), frames⟩
  | .value, .openArray, frames | .firstItem, .openArray, frames =>
    some ⟨.firstItem, .array [] :: frames⟩
  | .value, .openObject, frames | .firstItem, .openObject, frames =>
    some ⟨.firstName, .object [] :: frames⟩
  | .firstItem, .closeArray, .array items :: frames =>
    some ⟨.next (.arr items.reverse), frames⟩
  | .firstName, .closeObject, .object members :: frames =>
    some ⟨.next (.obj members.reverse), frames⟩
  | .firstName, .string name, frames | .name, .string name, frames =>
    some ⟨.colon name, frames⟩
  | .colon name, .colon, .object members :: frames =>
    some ⟨.value, .member members name :: frames⟩
  | .next v, .comma, .array items :: frames => some ⟨.value, .array (v :: items) :: frames⟩
  | .next v, .closeArray, .array items :: frames =>
    some ⟨.next (.arr (v :: items).reverse), frames⟩
  | .next v, .comma, .member members name :: frames =>
    some ⟨.name, .object ((name, v) :: members) :: frames⟩
  | .next v, .closeObject, .member members name :: frames =>
    some ⟨.next (.obj ((name, v) :: members).reverse), frames⟩
  | _, _, _ => none

/-- What lexemes have the form of. -/
def Raw.ofLexemes? (lexemes : List Lexeme) : Option Raw :=
  match lexemes.foldlM Reading.step ⟨.value, []⟩ with
  | some ⟨.next v, []⟩ => some v
  | _ => none

/-- What text has the form of. -/
def Raw.parse? (text : String) : Option Raw :=
  (lex text.toList).bind Raw.ofLexemes?

/-- Greatest depth of nesting of a document which is read from text. -/
def depthLimit : Nat := 127

/-- The document which text denotes, if fewer than `levels` texts are embedded
in each other.  Each of them has its own limit of depth. -/
def parseWithin? : (levels : Nat) → String → Option Json
  | 0, _ => none
  | levels + 1, text => do
    let raw ← Raw.parse? text
    if raw.depth ≤ depthLimit then raw.value? (parseWithin? levels) else none

/-- The document which text denotes.  Embedded text is shorter than the text
around it, so that there cannot be more levels than characters. -/
def parse? (text : String) : Option Json :=
  parseWithin? (text.length + 1) text

end NamedSql.Json
