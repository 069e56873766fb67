/-!
# Plans

A plan divides a list of statements into entries.  An entry is a statement with
those which follow it and may share a batch with it, as many as there are.  An
entry of one statement is executed by itself, and any other as a batch.
-/

namespace NamedSql

/-- One or more consecutive statements which are executed as one. -/
structure Entry (α : Type) where
  first : α
  others : List α
deriving DecidableEq

namespace Entry

variable {α β ε : Type}

/-- The statements of an entry, in order. -/
def statements (entry : Entry α) : List α :=
  entry.first :: entry.others

/-- Convert every statement of an entry.  The first which cannot be converted is
the error. -/
def mapM (convert : α → Except ε β) (entry : Entry α) : Except ε (Entry β) := do
  let first ← convert entry.first
  let others ← entry.others.mapM convert
  .ok ⟨first, others⟩

end Entry

variable {α : Type}

/-- Divide statements into entries.  Statements are only ever compared with the
first one of an entry. -/
def plan (sameBatch : α → α → Bool) (statements : List α) : List (Entry α) :=
  match statements with
  | [] => []
  | first :: rest =>
    have := (List.dropWhile_suffix (l := rest) (sameBatch first)).length_le
    ⟨first, rest.takeWhile (sameBatch first)⟩ :: plan sameBatch (rest.dropWhile (sameBatch first))
termination_by statements.length

end NamedSql
