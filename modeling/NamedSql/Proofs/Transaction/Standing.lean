import NamedSql.Proofs.Transaction.Bookkeeping
import NamedSql.Proofs.Transaction.Stage

/-!
# Where a transaction stands

While statements are gathered, nothing was asked of the backend.  While a run is
underway, its phase is reached with what was answered.  When a transaction is
settled, a course was concluded and everyone was told of it.  Whatever a
transaction does leads from one such standing to another.
-/

namespace NamedSql

open Exchange (calls answers)

/-! ## Conclusions -/

/-- What the execution of some statements came to: if one of them was not bound, nothing
was asked, and else a course of the planned entries was issued as a whole. -/
inductive Concluded (statements : List (Except SharedError Statement))
    (exchanges : List Exchange) : Except SharedError Unit → List Output → Prop
  | unbound {error : SharedError} (first : statements.findSome? error? = some error)
      (silent : exchanges = []) : Concluded statements exchanges (.error error) []
  | conducted {entries : List BoundEntry} (planned : planOf statements = .ok entries)
      (course : Course entries) (answered : answers exchanges = course.trace)
      (called : calls exchanges = course.trace.map (·.operation))
      {outcome : Except SharedError Unit} (decides : course.Decides outcome) :
      Concluded statements exchanges outcome course.outputs

/-- If the execution succeeded, every statement returned an output. -/
theorem Concluded.length_outputs {statements : List (Except SharedError Statement)}
    {exchanges : List Exchange} {outputs : List Output}
    (concluded : Concluded statements exchanges (.ok ()) outputs) :
    outputs.length = statements.length := by
  cases concluded with
  | conducted planned course answered called decides =>
      rw [Course.length_outputs_of_succeeded decides, length_of_planOf planned]

/-- The state in which a transaction is settled. -/
def finalState : Except SharedError Unit → TransactionState
  | .ok () => .committed
  | .error _ => .rolledBack

/-- The lines of a settled transaction: every sink was told, and the first statements
had returned the given outputs. -/
def settledLines (statements : List (Except SharedError Statement)) (outputs : List Output) :
    List Line :=
  statements.mapIdx fun id statement => ⟨statement, true, none, outputs[id]?.isSome⟩

/-- What the sinks of committed statements are told. -/
def completions (outputs : List Output) : List Event :=
  outputs.mapIdx fun id output => .notified id .committed (.ok output)

/-- What the sinks of bound statements are told if the transaction failed. -/
def failures (statements : List (Except SharedError Statement)) (error : SharedError) :
    List Event :=
  lateNotices .rolledBack (fun _ => .error error) (statements.map Line.added)

/-- What was told in the end, in order. -/
def finalNotices (statements : List (Except SharedError Statement)) (callback : Option String)
    (outputs : List Output) : Except SharedError Unit → List Event
  | .ok () => completions outputs
  | .error error =>
    earlyNotices statements ++ failures statements error ++ callbackNotice callback error

namespace Ledger

/-- The statements of all lines. -/
def statements (ledger : Ledger) : List (Except SharedError Statement) :=
  ledger.lines.map Line.statement

/-! ## Standings -/

/-- Statements are added, and nothing is executed yet. -/
structure Gathering (ledger : Ledger) : Prop where
  state : ledger.state = .pending
  gate : ledger.gate = false
  lines : ledger.lines = ledger.statements.map Line.added
  notices : ledger.notices = earlyNotices ledger.statements

/-- A run of the planned entries is underway. -/
structure Underway (ledger : Ledger) (exchanges : List Exchange) (entries : List BoundEntry)
    (outputs : List Output) (run : Run) : Prop where
  state : ledger.state = .executing
  gate : ledger.gate = true
  length : ledger.lines.length = ledger.expected
  planned : planOf ledger.statements = .ok entries
  lines : ledger.lines = linesOf ledger.statements outputs
  notices : ledger.notices = []
  reached : run.phase.Reached entries (answers exchanges) outputs
  /-- All which was called was answered, except a pending operation. -/
  calls : calls exchanges = (answers exchanges).map (·.operation) ++
    if run.suspended = 0 then [] else [run.phase.operation]

/-- The outcome is decided, and everyone was told. -/
structure Settled (ledger : Ledger) (exchanges : List Exchange) (callback : Option String)
    (outcome : Except SharedError Unit) (outputs : List Output) : Prop where
  state : ledger.state = finalState outcome
  length : ledger.lines.length = ledger.expected
  concluded : Concluded ledger.statements exchanges outcome outputs
  lines : ledger.lines = settledLines ledger.statements outputs
  notices : ledger.notices = finalNotices ledger.statements callback outputs outcome

/-- Where a transaction stands, with the failure callback to be called or called
and with the run which is underway. -/
inductive Standing (ledger : Ledger) (exchanges : List Exchange) (callback : Option String) :
    Option Run → Prop
  | gathering (gathering : ledger.Gathering) (silent : exchanges = [])
      (registered : ledger.onFailed = callback) : Standing ledger exchanges callback none
  | underway {entries : List BoundEntry} {outputs : List Output} {run : Run}
      (underway : ledger.Underway exchanges entries outputs run)
      (registered : ledger.onFailed = callback) : Standing ledger exchanges callback (some run)
  | settled {outcome : Except SharedError Unit} {outputs : List Output}
      (settled : ledger.Settled exchanges callback outcome outputs) :
      Standing ledger exchanges callback none

/-- Adding a statement is part of gathering them. -/
theorem Gathering.add {ledger : Ledger} (gathering : ledger.Gathering)
    (statement : Except SharedError Statement) : (ledger.add statement).Gathering := by
  have statements : (ledger.add statement).statements = ledger.statements ++ [statement] := by
    simp [Ledger.statements, Ledger.add, Line.added]
  have length : ledger.lines.length = ledger.statements.length := by simp [Ledger.statements]
  refine ⟨gathering.state, gathering.gate, ?_, ?_⟩
  · rw [statements, List.map_append, ← gathering.lines]
    rfl
  · rw [statements, earlyNotices_concat, ← gathering.notices, ← length]
    rfl

theorem finalState_ne_pending (outcome : Except SharedError Unit) :
    finalState outcome ≠ .pending := by
  cases outcome <;> exact fun equal => nomatch equal

/-- A pending transaction gathers statements. -/
theorem Standing.gathering_of_pending {ledger : Ledger} {exchanges : List Exchange}
    {callback : Option String} {current : Option Run}
    (standing : Standing ledger exchanges callback current) (pending : ledger.state = .pending) :
    ledger.Gathering ∧ exchanges = [] ∧ ledger.onFailed = callback ∧ current = none := by
  cases standing with
  | gathering gathering silent registered => exact ⟨gathering, silent, registered, rfl⟩
  | underway underway _ => exact nomatch underway.state.symm.trans pending
  | settled settled =>
      exact absurd (settled.state.symm.trans pending) (finalState_ne_pending _)

end Ledger

end NamedSql
