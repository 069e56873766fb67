import NamedSql.Error
import NamedSql.Json.Basic
import NamedSql.Time.Timestamp
import NamedSql.Uuid

/-!
# Arguments

The values which calls are made with, before they become documents.
-/

namespace NamedSql

/-- A value which is passed to a method. -/
inductive Argument where
  /-- Nothing: an absent or empty value. -/
  | nothing
  | bool (value : Bool)
  | int (value : Int)
  /-- A floating-point number, which may not be finite. -/
  | real (value : Option Double)
  | text (value : String)
  | uuid (value : Uuid)
  | timestamp (value : Timestamp)
  | list (items : List Argument)
  | map (entries : List (Argument × Argument))
  | document (value : Json)

namespace Argument

/-- The member name which a key of a map becomes: text, integers and booleans
have one. -/
def memberName? : Argument → Option String
  | .bool true => some "true"
  | .bool false => some "false"
  | .int n => some (toString n)
  | .text s => some s
  | _ => none

mutual

/-- The document of an argument, if it has one.  Numbers which are not finite
become null. -/
def toJson? : Argument → Option Json
  | .nothing => some .null
  | .bool b => some (.bool b)
  | .int n => some (.int n)
  | .real none => some .null
  | .real (some x) => some (.double x)
  | .text s => some (.str s)
  | .uuid u => some (.str u.text)
  | .timestamp t => some (.str t.text)
  | .list items => (itemsToJson? items).map .arr
  | .map entries => (entriesToJson? entries).map Json.object
  | .document v => some v

/-- The documents of items. -/
def itemsToJson? : List Argument → Option (List Json)
  | [] => some []
  | item :: rest => do
    let value ← item.toJson?
    let values ← itemsToJson? rest
    some (value :: values)

/-- The members of entries. -/
def entriesToJson? : List (Argument × Argument) → Option (List (String × Json))
  | [] => some []
  | (key, item) :: rest => do
    let name ← key.memberName?
    let value ← item.toJson?
    let members ← entriesToJson? rest
    some ((name, value) :: members)

end

/-- The documents of the arguments of a call. -/
def documents (arguments : List Argument) : Except Error (List Json) :=
  match itemsToJson? arguments with
  | some values => .ok values
  | none => .error .serialize

end Argument

end NamedSql
