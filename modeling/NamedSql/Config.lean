import NamedSql.Json.Parser
import NamedSql.Time.Duration

/-!
# Configuration

The one setting is the time from which on statements are logged as slow.  It is
read from a field of an object, or from an array which lists the settings in
order.  Other fields are ignored as long as they have the form of JSON.
-/

namespace NamedSql

/-- The configuration of statement execution. -/
structure Config where
  /-- Statements which take longer than this are logged as slow. -/
  slowQueryThreshold : Duration := .ofSeconds 5
deriving DecidableEq

namespace Config

/-- Name of the field which holds the threshold. -/
def thresholdField : String := "slowQueryLogThreshold"

/-- The configuration with a threshold given as text. -/
def ofThreshold? (raw : Json.Raw) : Option Config := do
  let text ← raw.text?
  let threshold ← Duration.parse? text
  some { slowQueryThreshold := threshold }

/-- The value of a field, whatever the values of other fields are; none inside
if there is no such field.  Every field must have a name, but not this one
twice. -/
def field? (name : String) (members : List (Option String × Json.Raw)) :
    Option (Option Json.Raw) :=
  if members.any (·.1.isNone) then none
  else
    match members.filter (·.1 == some name) with
    | [] => some none
    | [(_, raw)] => some (some raw)
    | _ => none

/-- The configuration which raw JSON denotes. -/
def ofRaw? : Json.Raw → Option Config
  | .obj members =>
    match field? thresholdField members with
    | some (some raw) => ofThreshold? raw
    | some none => some {}
    | none => none
  | .arr [] => some {}
  | .arr [raw] => ofThreshold? raw
  | _ => none

/-- Read JSON text. -/
def parse? (text : String) : Option Config :=
  (Json.Raw.parse? text).bind ofRaw?

/-- Write the configuration as an object. -/
def toJson (config : Config) : Json :=
  .object [(thresholdField, .str config.slowQueryThreshold.text)]

end Config

end NamedSql
