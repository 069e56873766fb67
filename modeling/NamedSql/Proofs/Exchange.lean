import NamedSql.Connection

/-!
# What a backend is asked and what it answers

A backend can be made to record how it was polled.  The record tells which
operations were called, in which order, and what was answered; it does not change
any answer.
-/

namespace NamedSql

/-- One poll of an operation. -/
structure Exchange where
  operation : Operation
  /-- How often the operation was suspended before. -/
  suspended : Nat
  /-- The answer, unless the operation was suspended again. -/
  answer : Option (Except Error operation.Answer)

/-- An operation with its answer. -/
structure Answered where
  operation : Operation
  answer : Except Error operation.Answer

namespace Exchange

/-- The operation with its answer, if it was answered. -/
def answered? (exchange : Exchange) : Option Answered :=
  exchange.answer.map fun answer => ⟨exchange.operation, answer⟩

/-- The operations which were called, in order.  The first poll of an operation is
its call; polling it again is not. -/
def calls (exchanges : List Exchange) : List Operation :=
  (exchanges.filter (·.suspended == 0)).map (·.operation)

/-- The operations which were answered, in order, with their answers. -/
def answers (exchanges : List Exchange) : List Answered :=
  exchanges.filterMap answered?

@[simp]
theorem answers_nil : answers [] = [] :=
  rfl

theorem calls_concat (exchanges : List Exchange) (exchange : Exchange) :
    calls (exchanges ++ [exchange]) =
      calls exchanges ++ if exchange.suspended = 0 then [exchange.operation] else [] := by
  by_cases called : exchange.suspended = 0 <;> simp [calls, called]

theorem answers_concat_some (exchanges : List Exchange) (operation : Operation)
    (suspended : Nat) (answer : Except Error operation.Answer) :
    answers (exchanges ++ [⟨operation, suspended, some answer⟩]) =
      answers exchanges ++ [⟨operation, answer⟩] := by
  simp [answers, answered?]

theorem answers_concat_none (exchanges : List Exchange) (operation : Operation)
    (suspended : Nat) :
    answers (exchanges ++ [⟨operation, suspended, none⟩]) = answers exchanges := by
  simp [answers, answered?]

end Exchange

/-- An answer which reports one row for every statement which was executed. -/
def Operation.success : (operation : Operation) → operation.Answer
  | .query .. => .affected 1
  | .update .. => 1
  | .batch _ rows => rows.map fun _ => 1
  | .acquire | .autoCommit _ | .commit | .rollback | .close => ()

namespace Backend

variable {σ : Type}

/-- The backend which performs everything at once, except the operations which fail. -/
def failing (fails : Operation → Bool) : Backend Unit :=
  immediate (fun operation state =>
    (if fails operation then .error .serialize else .ok operation.success, state)) fun _ => ⟨0⟩

/-- The same backend, which also records how it is polled. -/
def recording (backend : Backend σ) : Backend (σ × List Exchange) where
  poll operation suspended state :=
    let (answer, next) := backend.poll operation suspended state.1
    (answer, next, state.2 ++ [⟨operation, suspended, answer⟩])
  elapsed := backend.elapsed

/-- A backend which never suspends an operation. -/
def Prompt (backend : Backend σ) : Prop :=
  ∀ operation suspended state, (backend.poll operation suspended state).1 ≠ none

theorem prompt_failing (fails : Operation → Bool) : (failing fails).Prompt := by
  intro operation suspended state
  exact nofun

/-- A poll adds one exchange to the record. -/
theorem recorded_of_poll {backend : Backend σ} {operation : Operation} {suspended : Nat}
    {before after : σ × List Exchange} {answer : Option (Except Error operation.Answer)}
    (polled : backend.recording.poll operation suspended before = (answer, after)) :
    after.2 = before.2 ++ [⟨operation, suspended, answer⟩] := by
  obtain ⟨answered, next⟩ := Prod.mk.inj polled
  rw [← next, answered]

end Backend

end NamedSql
