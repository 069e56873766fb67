import NamedSql.Proofs.Postgres.Durability
import NamedSql.Proofs.Scene.Trace

/-!
# All or nothing

A transaction over a connection to a server makes all of its statements durable or none,
whichever commands fail and wherever its execution is suspended or abandoned.
-/

namespace NamedSql.Scene

open Postgres

variable {δ : Type}

/-- A committed transaction has made the database with all of its statements durable, executed in
order, and one which was rolled back has left the durable database as it was.  At no time,
whatever happened so far, was any other database durable, and no transaction is left open in the
end.  Over a backend which never suspends, a complete transaction comes to an end. -/
theorem all_or_nothing (engine : Engine δ) {backend : Backend (Connection (Store δ))}
    (reaches : Reaches engine.server backend) {c : Connection (Store δ)}
    (fresh : c.server.working = none) (expected : Nat) (threshold : Duration)
    (actions : List Action) :
    let scene := (initial expected threshold c).run backend actions
    let statements := scene.transaction.members.map (·.statement)
    let store := scene.backend.1.server
    (scene.transaction.state = .committed → Entire engine c statements store) ∧
    (scene.transaction.state = .rolledBack → Unchanged c.server store) ∧
    (Unchanged c.server store ∨ Entire engine c statements store) ∧
    (scene.transaction.state.isFinal = true → store.working = none) ∧
    (backend.Prompt → scene.transaction.state = .pending → scene.transaction.awaiting = [] →
      scene.transaction.members.length = expected →
      (scene.run backend [.request, .poll scene.requests.length]).transaction.state.isFinal =
        true) := by
  intro scene statements store
  obtain ⟨callback, current, coherent⟩ := coherent_run expected threshold c backend actions
  change scene.Coherent callback current at coherent
  have replays : Replays engine.server c (Exchange.answers scene.exchanges) scene.backend.1 :=
    replays_run reaches expected threshold c actions
  have listed : scene.transaction.ledger.statements = statements :=
    scene.transaction.statements_ledger
  have settled (final : scene.transaction.state.isFinal = true) :
      ∃ outcome, scene.transaction.state = finalState outcome ∧ store.working = none ∧
        (outcome = .ok () → Entire engine c statements store) ∧
        ∀ error, outcome = .error error → Unchanged c.server store := by
    obtain ⟨outcome, outputs, settled⟩ := coherent.settled final
    have durable := durable_of_concluded fresh settled.concluded replays
    rw [listed] at durable
    exact ⟨outcome, settled.state, durable⟩
  refine ⟨?_, ?_, ?_, ?_, ?_⟩
  · intro committed
    obtain ⟨outcome, state, -, succeeded, -⟩ := settled (by rw [committed]; rfl)
    cases outcome with
    | ok _ => exact succeeded rfl
    | error _ => cases committed.symm.trans state
  · intro rolledBack
    obtain ⟨outcome, state, -, -, failed⟩ := settled (by rw [rolledBack]; rfl)
    cases outcome with
    | ok _ => cases rolledBack.symm.trans state
    | error error => exact failed error rfl
  · rw [← listed]
    exact durable_of_standing fresh coherent.standing replays
  · intro final
    obtain ⟨_, -, closed, -⟩ := settled final
    exact closed
  · intro prompt pending subscribed counted
    exact (finished_of_complete expected threshold c actions prompt
      (ready_run backend expected threshold c actions pending subscribed counted)).2

/-- The second of two updates fails, and so does the rollback: the durable database keeps what it
had, without the first update. -/
theorem all_or_nothing_of_failed_update :
    let engine : Engine (List String) :=
      { effect := fun command database => database ++ [command.sql]
        answer := fun command _ =>
          if command.sql = "b" ∨ command.sql = "ROLLBACK" then .error .serialize else .ok {} }
    let backend := engine.server.backend fun _ => ⟨0⟩
    let update (text : String) : Statement := ⟨text, .update, ⟨text, []⟩, []⟩
    let ready := (initial 2 ⟨0⟩ { server := { durable := ["x"] } }).run backend
      [.add (.ok (update "a")) "first" false, .add (.ok (update "b")) "second" true,
        .markAllSubscribed]
    let scene := ready.run backend [.request, .poll 0]
    scene.backend.1.server.sent.map Postgres.Command.sql = ["BEGIN", "a", "b", "ROLLBACK"] ∧
      scene.transaction.state = .rolledBack ∧ scene.backend.1.server.durable = ["x"] ∧
      scene.backend.1.server.superseded = [] ∧ scene.backend.1.server.working = none := by
  intro engine backend update ready scene
  have reaches : Reaches engine.server backend := engine.server.reaches _
  have pending : ready.transaction.state = .pending := by decide +kernel
  have subscribed : ready.transaction.awaiting = [] := by decide +kernel
  have counted : ready.transaction.members.length = 2 := by decide +kernel
  obtain ⟨-, -, -, -, ends⟩ := all_or_nothing engine reaches
    (rfl : ({ server := { durable := ["x"] } } : Connection (Store _)).server.working = none) 2 ⟨0⟩
    [.add (.ok (update "a")) "first" false, .add (.ok (update "b")) "second" true,
      .markAllSubscribed]
  have final : scene.transaction.state.isFinal = true :=
    ends (engine.server.prompt _) pending subscribed counted
  have rolledBack : scene.transaction.state = .rolledBack := by decide +kernel
  obtain ⟨-, unchanged, -, closed, -⟩ := all_or_nothing engine reaches
    (rfl : ({ server := { durable := ["x"] } } : Connection (Store _)).server.working = none) 2 ⟨0⟩
    [.add (.ok (update "a")) "first" false, .add (.ok (update "b")) "second" true,
      .markAllSubscribed, .request, .poll 0]
  obtain ⟨durable, superseded⟩ := unchanged rolledBack
  exact ⟨by decide +kernel, rolledBack, durable, superseded, closed final⟩

end NamedSql.Scene
