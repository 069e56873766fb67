/-!
# The life of a transaction
-/

namespace NamedSql

/-- The stages of a transaction, which only move forward. -/
inductive TransactionState where
  | pending
  | executing
  | committed
  | rolledBack
deriving DecidableEq

/-- How a state is displayed. -/
def TransactionState.display : TransactionState → String
  | .pending => "Pending"
  | .executing => "Executing"
  | .committed => "Committed"
  | .rolledBack => "RolledBack"

/-- Whether the outcome is decided. -/
def TransactionState.isFinal : TransactionState → Bool
  | .committed | .rolledBack => true
  | _ => false

end NamedSql
