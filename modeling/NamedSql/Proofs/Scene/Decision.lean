import NamedSql.Proofs.Scene.Lifecycle

/-!
# The decision

The outcome of a transaction is decided by one action.  What its sinks were told, and
which failure callback was called, is settled from then on.
-/

namespace NamedSql

/-- The failure callback registered last, after another action. -/
def Action.callback (last : Option String) : Action → Option String
  | .onTransactionFailed name => some name
  | _ => last

namespace Scene

variable {σ : Type} {backend : Backend σ} {scene after : Scene σ} {callback : Option String}
  {current : Option Run} {outcome : Except SharedError Unit} {outputs : List Output}

/-- What is settled stays settled. -/
theorem Rests.settled (rests : Rests scene after)
    (settled : scene.transaction.ledger.Settled scene.exchanges callback outcome outputs) :
    after.transaction.ledger.Settled after.exchanges callback outcome outputs := by
  obtain ⟨exchanges, gate, onFailed, ledger⟩ := rests
  rw [exchanges, ledger]
  exact { settled with }

theorem Coherent.settled (coherent : scene.Coherent callback current)
    (final : scene.transaction.state.isFinal = true) :
    ∃ outcome outputs,
      scene.transaction.ledger.Settled scene.exchanges callback outcome outputs := by
  have standing := coherent.standing
  cases standing with
  | gathering gathering _ _ =>
      have state : scene.transaction.state = .pending := gathering.state
      rw [state] at final
      cases final
  | underway underway _ =>
      have state : scene.transaction.state = .executing := underway.state
      rw [state] at final
      cases final
  | settled settled => exact ⟨_, _, settled⟩

variable (backend) (expected : Nat) (threshold : Duration) (state : σ)

end Scene

end NamedSql
