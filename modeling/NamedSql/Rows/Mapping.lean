import NamedSql.Json.Parser
import NamedSql.Log
import NamedSql.Rows.Casing
import NamedSql.Statement

/-!
# Mapping of result rows

A row becomes one document.  For a record, the value of each column becomes the
property of the same name, or of the name spelled with capitals or with
underscores; columns without a property are skipped.  Any other kind is read
from the first column.  Values of JSON-shaped kinds are stored as JSON text and
parsed here.
-/

namespace NamedSql.Rows

/-- The property for a column: of the same name, else of the name spelled with
capitals, else with underscores. -/
def matchColumn? (properties : List Property) (column : String) : Option Property :=
  Property.find? properties column
    <|> Property.find? properties (camelCase column)
    <|> Property.find? properties (snakeCase column)

/-- A stored value as a document: text of a JSON-shaped kind is parsed. -/
def restore? (kind : Kind) (value : Json) : Option Json :=
  match value with
  | .str text => if kind.isJsonShaped then Json.parse? text else some value
  | value => some value

/-- The members of a record which a row has, in the order of columns. -/
def members? : List (Option Property) → List Json → Option (List (String × Json))
  | some (name, kind) :: columns, value :: row => do
    let restored ← restore? kind value
    let rest ← members? columns row
    some ((name, restored) :: rest)
  | none :: columns, _ :: row => members? columns row
  | _, _ => some []

/-- The document of a row of the given columns. -/
def document? (kind : Kind) (columns : List String) (row : List Json) : Option Json :=
  match kind with
  | .record _ properties => (members? (columns.map (matchColumn? properties)) row).map Json.object
  | kind => restore? kind (row.head?.getD .null)

/-- Read every row of a result, in order, by way of its document. -/
def read {α : Type} (kind : Kind) (accept : Json → Option α) (output : Output) :
    Except Error (List α) :=
  match output.rows.mapM fun row => (document? kind output.columns row).bind accept with
  | some values => .ok values
  | none => .error (.deserialize kind.display)

/-- What is logged when a result is read: the columns without a property. -/
def unmatched (kind : Kind) (output : Output) : List LogEvent :=
  match kind with
  | .record name properties =>
    (output.columns.filter fun column => (matchColumn? properties column).isNone).map fun column =>
      .unmatchedColumn column (camelCase column) name
  | _ => []

end NamedSql.Rows
