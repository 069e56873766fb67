import NamedSql.Proofs.Scene.Lifecycle
import NamedSql.Proofs.Transaction.Calls

/-!
# One execution

However requests, participants and subscriptions interleave, a transaction acquires a
connection once and only when it is complete, and executes its statements in order.
-/

namespace NamedSql.Scene

variable {σ : Type}

/-- A connection is acquired at most once, by a transaction whose statements are all
subscribed and whose number is right.  These and no others are executed, in order of
addition, all of them before the only commit.  The state only moves forward. -/
theorem executed_once (backend : Backend σ) (expected : Nat) (threshold : Duration) (state : σ)
    (actions later : List Action) :
    let scene := (initial expected threshold state).run backend actions
    let calls := Exchange.calls scene.exchanges
    calls.count .acquire ≤ 1 ∧ calls.count .commit ≤ 1 ∧
      Relation.ReflTransGen TransactionState.Moves scene.transaction.state
        (scene.run backend later).transaction.state ∧
      (calls ≠ [] →
        calls.head? = some .acquire ∧ scene.transaction.awaiting = [] ∧
          (∀ member ∈ scene.transaction.members, member.subscribed = true) ∧
          scene.transaction.members.length = expected ∧
          ∃ statements : List Statement,
            scene.transaction.members.map (·.statement) = statements.map .ok ∧
            calls.flatMap Operation.commands <+: statements.map Statement.command ∧
            (.commit ∈ calls →
              calls.flatMap Operation.commands = statements.map Statement.command)) := by
  intro scene calls
  obtain ⟨callback, current, coherent⟩ := coherent_run expected threshold state backend actions
  have sound := sound_run expected threshold state backend actions
  change scene.Coherent callback current at coherent
  change scene.transaction.attendance.Sound expected at sound
  have standing := coherent.standing
  refine ⟨standing.count_acquire, standing.count_commit, coherent.moves_run later, ?_⟩
  intro called
  obtain ⟨begun, counted⟩ : scene.transaction.state ≠ .pending ∧
      scene.transaction.ledger.lines.length = scene.transaction.expected := by
    rcases standing.calls with silent | ⟨_, _, _, _, counted, begun⟩
    · exact absurd silent called
    · exact ⟨begun, counted⟩
  have closed := coherent.closed begun
  have subscribed := sound.subscribed_of_awaiting closed
  have length : scene.transaction.ledger.lines.length = scene.transaction.members.length :=
    List.length_map _
  refine ⟨standing.head?_calls called, closed, ?_, ?_, ?_⟩
  · exact fun member among => subscribed _ (List.mem_map_of_mem among)
  · exact length.symm.trans (counted.trans sound.created)
  · rw [← Transaction.statements_ledger]
    exact standing.commands called

end NamedSql.Scene
