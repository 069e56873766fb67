import NamedSql.Json.Basic

/-!
# Embedded text

An object whose first member has a reserved name stands for the document which
that member gives as text.  The member must be a string and the only one: any
other object which starts with the reserved name denotes nothing.
-/

namespace NamedSql.Json

/-- The reserved name of a member with embedded text. -/
def embeddedName : String := "$serde_json::private::RawValue"

/-- What members embed, where `text?` gives the text of an item: `none` if they
do not start with the reserved name, and none inside if they do but not with one
text alone. -/
def embeddedText? {ν α : Type} [BEq ν] (reserved : ν) (text? : α → Option String) :
    List (ν × α) → Option (Option String)
  | [] => none
  | (name, item) :: rest =>
    if name == reserved then some (if rest.isEmpty then text? item else none) else none

end NamedSql.Json
