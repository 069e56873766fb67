import NamedSql.Proofs.Scene.Coherence
import NamedSql.Proofs.Scene.Registry
import NamedSql.Proofs.Transaction.Growth
import Mathlib.Logic.Relation

/-!
# The life of a transaction in all scenes

The state of a transaction only moves forward, and nothing which it has come to is
taken back.  Once its outcome is decided, nothing more is asked of the backend, and
nobody is told anything more.
-/

namespace NamedSql

open Ledger (Standing)

namespace TransactionState

/-- One move of a transaction's state. -/
inductive Moves : TransactionState → TransactionState → Prop
  | begin : Moves .pending .executing
  | commit : Moves .executing .committed
  | rollBack : Moves .executing .rolledBack

theorem moves_of_executing {state : TransactionState} (begun : state ≠ .pending) :
    Relation.ReflTransGen Moves .executing state := by
  cases state with
  | pending => exact absurd rfl begun
  | executing => exact .refl
  | committed => exact .single .commit
  | rolledBack => exact .single .rollBack

theorem moves_of_pending (state : TransactionState) :
    Relation.ReflTransGen Moves .pending state := by
  by_cases begun : state = .pending
  · rw [begun]
  · exact .head .begin (moves_of_executing begun)

end TransactionState

namespace Transaction

variable {t : Transaction} {σ : Type} (backend : Backend σ)

/-- A request after the beginning of another run ends at once. -/
theorem execute_of_begun (begun : t.state ≠ .pending) (state : σ) :
    ∃ result after gate, t.execute backend .unstarted state = (.finished result, after, state) ∧
      after.ledger = { t.ledger with gate := gate } := by
  have admission := t.admission
  simp only [execute]
  generalize t.begin = result at admission ⊢
  cases admission with
  | unsubscribed _ => exact ⟨_, _, t.gate, rfl, ledger_log t _⟩
  | miscounted _ _ => exact ⟨_, _, t.gate, rfl, ledger_log t _⟩
  | closed _ => exact ⟨_, _, t.gate, rfl, ledger_log t _⟩
  | late _ _ => exact ⟨_, _, true, rfl, ledger_log _ _⟩
  | unbound ready _ => exact absurd ready.state begun
  | admitted ready _ => exact absurd ready.state begun

/-- So does the shared execution, unless the run is its own. -/
theorem pollShared_of_begun (begun : t.state ≠ .pending) {shared : SharedExecution}
    (idle : shared.run? = none) (state : σ) :
    ∃ result after gate, t.pollShared backend shared state = (result, after, state) ∧
      after.ledger = { t.ledger with gate := gate } := by
  cases shared with
  | finished result => exact ⟨_, _, t.gate, rfl, rfl⟩
  | active execution =>
      cases execution with
      | running run => cases idle
      | unstarted =>
          obtain ⟨result, after, gate, polled, ledger⟩ := execute_of_begun backend begun state
          obtain ⟨shared, _, _, finished, -⟩ := t.pollShared_active backend polled
          exact ⟨_, _, gate, finished, ledger⟩

end Transaction

namespace Scene

variable {σ : Type} {backend : Backend σ} {scene after : Scene σ} {callback : Option String}
  {current : Option Run}

/-- Nothing was asked, and nobody was told anything. -/
structure Rests (before after : Scene σ) : Prop where
  exchanges : after.exchanges = before.exchanges
  ledger : ∃ gate onFailed, after.transaction.ledger =
    { before.transaction.ledger with gate := gate, onFailed := onFailed }

theorem Rests.of_ledger (exchanges : after.exchanges = scene.exchanges)
    (ledger : after.transaction.ledger = scene.transaction.ledger) : Rests scene after :=
  ⟨exchanges, _, _, ledger⟩

theorem begun_of_final {state : TransactionState} (final : state.isFinal = true) :
    state ≠ .pending := by
  rintro rfl
  cases final

/-- No run is underway once the outcome is decided. -/
theorem Coherent.idle_of_final (coherent : scene.Coherent callback current)
    (final : scene.transaction.state.isFinal = true) : current = none := by
  have standing := coherent.standing
  cases standing with
  | gathering _ _ _ => rfl
  | underway underway _ =>
      have executing : scene.transaction.state = .executing := underway.state
      rw [executing] at final
      cases final
  | settled _ => rfl

theorem Coherent.unheld_of_final (coherent : scene.Coherent callback current)
    (final : scene.transaction.state.isFinal = true) (holder : Option Nat) :
    scene.heldBy holder = none := by
  cases held : scene.heldBy holder with
  | none => rfl
  | some run =>
      exact nomatch (coherent.idle_of_final final).symm.trans (coherent.current_of_held held)

theorem Coherent.rests_pollShared (coherent : scene.Coherent callback current)
    (final : scene.transaction.state.isFinal = true) {shared : SharedExecution}
    (started : scene.transaction.shared = some shared)
    {result : Option (Except SharedError Unit)} {t : Transaction} {later : σ × List Exchange}
    (polled : scene.transaction.pollShared backend.recording shared scene.backend =
      (result, t, later)) :
    later = scene.backend ∧
      ∃ gate, t.ledger = { scene.transaction.ledger with gate := gate } := by
  have idle : shared.run? = none := by
    have unheld := coherent.unheld_of_final final none
    rw [heldBy, started] at unheld
    exact unheld
  obtain ⟨_, _, gate, same, ledger⟩ := Transaction.pollShared_of_begun backend.recording
    (begun_of_final final) idle scene.backend
  rw [polled] at same
  obtain ⟨-, rfl, rfl⟩ := same
  exact ⟨rfl, gate, ledger⟩

theorem Coherent.rests_pollPresent (coherent : scene.Coherent callback current)
    (final : scene.transaction.state.isFinal = true) (id : Nat) (waker : Waker) :
    Rests scene (scene.pollPresent backend id waker) := by
  have subscribed := coherent.subscribeOnce id
  have visited := scene.transaction.visited backend.recording id waker scene.backend
  have ledger := Transaction.ledger_subscribeOnce scene.transaction id
  have stays : (scene.transaction.subscribeOnce id).state.isFinal = true := by
    rw [show (scene.transaction.subscribeOnce id).state = _ from congrArg Ledger.state ledger]
    exact final
  unfold Scene.pollPresent
  generalize scene.transaction.pollParticipant backend.recording id waker scene.backend = result
    at visited ⊢
  rcases result with ⟨outcome, after, later⟩
  cases visited with
  | early _ tends => exact .of_ledger rfl (tends.ledger.trans ledger)
  | shared started polled tends =>
      obtain ⟨rfl, gate, same⟩ := rests_pollShared subscribed stays started polled
      rw [ledger] at same
      exact ⟨rfl, gate, _, tends.ledger.trans same⟩

/-- Once the outcome is decided, every action leaves it at that. -/
theorem Coherent.rests (backend : Backend σ) (coherent : scene.Coherent callback current)
    (final : scene.transaction.state.isFinal = true) (action : Action) :
    Rests scene (scene.step backend action) := by
  have begun := begun_of_final final
  cases action with
  | add statement name refuses =>
      rw [Scene.step, Transaction.add_of_not_pending begun]
      exact .of_ledger rfl rfl
  | participate statement =>
      rw [Scene.step, Transaction.participate, Transaction.add_of_not_pending begun]
      exact .of_ledger rfl rfl
  | markSubscribed id => exact .of_ledger rfl (Transaction.ledger_markSubscribed _ id)
  | markAllSubscribed => exact .of_ledger rfl (Transaction.ledger_markAllSubscribed _)
  | onTransactionFailed name => exact ⟨rfl, _, _, rfl⟩
  | request => exact .of_ledger rfl rfl
  | poll index =>
      simp only [Scene.step]
      split
      next execution active =>
        have idle : scene.heldBy (some index) = none := coherent.unheld_of_final final _
        rw [heldBy, active] at idle
        cases execution with
        | running run => cases idle
        | unstarted =>
            obtain ⟨_, _, gate, polled, ledger⟩ :=
              Transaction.execute_of_begun backend.recording begun scene.backend
            rw [Scene.pollRequest, polled]
            exact ⟨rfl, gate, _, ledger⟩
      next => exact .of_ledger rfl rfl
  | drop index => exact .of_ledger rfl rfl
  | pollParticipant id waker =>
      simp only [Scene.step]
      split
      · exact coherent.rests_pollPresent final id waker
      · exact .of_ledger rfl rfl
  | dropParticipant id => exact .of_ledger rfl (Transaction.ledger_depart _ id)

/-! ## What is never taken back -/

theorem grows_register (scene : Scene σ) (statement : Except Error Statement) {sink : Sink}
    (fresh : sink.delivered? = none) :
    Transaction.Grows scene.transaction
      (scene.register (scene.transaction.add statement sink)).transaction := by
  cases added : scene.transaction.add statement sink with
  | error _ => exact .refl _
  | ok result => exact scene.transaction.grows_add fresh added

/-- No action takes anything back. -/
theorem grows_step (backend : Backend σ) (scene : Scene σ) (action : Action) :
    Transaction.Grows scene.transaction (scene.step backend action).transaction := by
  cases action with
  | add statement name refuses => exact scene.grows_register statement rfl
  | participate statement => exact scene.grows_register statement rfl
  | markSubscribed id => exact scene.transaction.grows_markSubscribed id
  | markAllSubscribed => exact scene.transaction.grows_markAllSubscribed
  | onTransactionFailed name =>
      exact ⟨rfl, List.prefix_rfl, List.Subset.refl _, id, fun _ => id, id, .refl _⟩
  | request => exact .refl _
  | poll index =>
      simp only [Scene.step]
      split
      next execution _ =>
        exact (scene.transaction.keeps_execute backend.recording execution _).grows
      next => exact .refl _
  | drop index => exact .refl _
  | pollParticipant id waker =>
      simp only [Scene.step]
      split
      · exact Transaction.grows_pollParticipant backend.recording _ id waker scene.backend
      · exact .refl _
  | dropParticipant id => exact (scene.transaction.keeps_depart id).grows

/-- No run takes anything back. -/
theorem grows_run (backend : Backend σ) (scene : Scene σ) (actions : List Action) :
    Transaction.Grows scene.transaction (scene.run backend actions).transaction := by
  induction actions generalizing scene with
  | nil => exact .refl _
  | cons action actions inductionHypothesis =>
      exact (scene.grows_step backend action).trans (inductionHypothesis _)

/-! ## States -/

/-- The state only moves forward with every action. -/
theorem Coherent.moves_step (coherent : scene.Coherent callback current) (action : Action) :
    Relation.ReflTransGen TransactionState.Moves scene.transaction.state
      (scene.step backend action).transaction.state := by
  cases final : scene.transaction.state.isFinal with
  | true =>
      obtain ⟨-, _, _, ledger⟩ := coherent.rests backend final action
      have same : (scene.step backend action).transaction.state = scene.transaction.state :=
        congrArg Ledger.state ledger
      rw [same]
  | false =>
      cases state : scene.transaction.state with
      | pending => exact TransactionState.moves_of_pending _
      | executing =>
          apply TransactionState.moves_of_executing
          apply (scene.grows_step backend action).begun
          rw [state]
          exact nofun
      | committed => rw [state] at final; cases final
      | rolledBack => rw [state] at final; cases final

/-! ## Runs -/

variable (expected : Nat) (threshold : Duration) (state : σ)

theorem coherent_initial : (initial expected threshold state).Coherent none none := by
  refine ⟨.gathering ⟨rfl, rfl, rfl, rfl⟩ rfl rfl, ⟨none, ?_⟩, fun _ => rfl⟩
  rintro (_ | _) run held <;> cases held

theorem sound_initial : (initial expected threshold state).transaction.attendance.Sound expected :=
  ⟨rfl, fun _ unsubscribed => (nomatch unsubscribed), .none⟩

/-- A coherent scene stays coherent in every run. -/
theorem Coherent.run (backend : Backend σ) (coherent : scene.Coherent callback current)
    (actions : List Action) :
    ∃ callback current, (scene.run backend actions).Coherent callback current := by
  refine invariant_run backend (fun scene => ∃ callback current, scene.Coherent callback current)
    ?_ ⟨callback, current, coherent⟩ actions
  rintro scene action ⟨callback, current, coherent⟩
  exact ⟨_, coherent.step backend action⟩

theorem coherent_run (backend : Backend σ) (actions : List Action) :
    ∃ callback current,
      ((initial expected threshold state).run backend actions).Coherent callback current :=
  (coherent_initial expected threshold state).run backend actions

theorem sound_run (backend : Backend σ) (actions : List Action) :
    ((initial expected threshold state).run backend actions).transaction.attendance.Sound
      expected :=
  invariant_run backend (fun scene => scene.transaction.attendance.Sound expected)
    (fun _ action sound => sound_step sound action) (sound_initial expected threshold state) actions

/-- The state only moves forward in every run. -/
theorem Coherent.moves_run (coherent : scene.Coherent callback current) (actions : List Action) :
    Relation.ReflTransGen TransactionState.Moves scene.transaction.state
      (scene.run backend actions).transaction.state := by
  induction actions generalizing scene callback current with
  | nil => exact .refl
  | cons action actions inductionHypothesis =>
      obtain ⟨next, stepped⟩ := coherent.step backend action
      exact (coherent.moves_step action).trans (inductionHypothesis stepped)

end Scene

end NamedSql
