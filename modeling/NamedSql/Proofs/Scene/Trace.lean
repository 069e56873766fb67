import NamedSql.Proofs.Scene.Decision
import NamedSql.Proofs.Transaction.Calls

/-!
# The trace of an execution

A request which is made of a complete transaction and which finishes has issued a whole
course, whatever else happened meanwhile.
-/

namespace NamedSql

open Ledger (Standing)

namespace Transaction

variable {t after : Transaction} {σ : Type} (backend : Backend σ) {callback : Option String}
  {run : Run} {state later : σ × List Exchange} {result : Except Error Unit}

/-- A run which has finished has decided the outcome. -/
theorem final_of_carryOn (standing : Standing t.ledger state.2 callback (some run))
    (finished : t.carryOn backend.recording run state = (.finished result, after, later)) :
    result = .ok () ∧ after.state.isFinal = true := by
  have carried := standing_carryOn backend standing
  have kept := t.keeps_carryOn backend.recording run state
  have successful := carryOn_ne_error (t := t) backend.recording run state
  rw [finished] at carried kept successful
  have begun : after.state ≠ .pending := by
    apply kept.begun
    cases standing with
    | underway underway _ =>
        have executing : t.state = .executing := underway.state
        rw [executing]
        exact nofun
  constructor
  · cases result with
    | ok _ => rfl
    | error error => exact absurd rfl (successful error)
  · cases carried with
    | gathering gathering _ _ => exact absurd gathering.state begun
    | settled settled =>
        rename_i outcome outputs
        have final : after.state = finalState outcome := settled.state
        rw [final]
        cases outcome <;> rfl

/-- A run is carried to its end over a backend which never suspends. -/
theorem drive_of_prompt {backend : Backend σ} (prompt : backend.Prompt) (run : Run)
    (t : Transaction) (state : σ × List Exchange) :
    (t.drive backend.recording run state).1 = none := by
  fun_induction drive backend.recording run t state with
  | case1 run t state later polled =>
      have answered := prompt run.phase.operation run.suspended state.1
      exact absurd (congrArg Prod.fst polled) answered
  | case2 => rfl
  | case3 run t state answer later polled performed next after resumed _ inductionHypothesis =>
      exact inductionHypothesis

theorem execute_of_prompt {backend : Backend σ} (prompt : backend.Prompt) (execution : Execution)
    (t : Transaction) (state : σ × List Exchange) :
    ∃ result, (t.execute backend.recording execution state).1 = .finished result := by
  have carried (run : Run) (t : Transaction) :
      (t.carryOn backend.recording run state).1 = .finished (.ok ()) := by
    have driven := drive_of_prompt prompt run t state
    unfold carryOn
    generalize t.drive backend.recording run state = result at driven ⊢
    rcases result with ⟨_ | _, _, _⟩
    · rfl
    · cases driven
  cases execution with
  | running run => exact ⟨_, carried run t⟩
  | unstarted =>
      simp only [execute]
      rcases t.begin with ⟨run | result, after⟩
      · exact ⟨_, carried run after⟩
      · exact ⟨result, rfl⟩

end Transaction

namespace Scene

variable {σ : Type} {backend : Backend σ} {scene after : Scene σ} {callback : Option String}
  {current : Option Run} {index : Nat}

/-- A request which has begun a run, and has decided the outcome if it has finished. -/
def Conducts (index : Nat) (scene : Scene σ) : Prop :=
  (∃ run, scene.requests[index]? = some (.active (.running run))) ∨
    scene.requests[index]? = some (.finished (.ok ())) ∧ scene.transaction.state.isFinal = true ∨
    scene.requests[index]? = some .dropped

theorem Conducts.kept (conducts : scene.Conducts index)
    (same : after.requests[index]? = scene.requests[index]?)
    (final : scene.transaction.state.isFinal = true → after.transaction.state.isFinal = true) :
    after.Conducts index := by
  rcases conducts with ⟨run, active⟩ | ⟨finished, decided⟩ | dropped
  · exact .inl ⟨run, same.trans active⟩
  · exact .inr (.inl ⟨same.trans finished, final decided⟩)
  · exact .inr (.inr (same.trans dropped))

theorem Conducts.final_of_finished (conducts : scene.Conducts index)
    {result : Except Error Unit} (finished : scene.requests[index]? = some (.finished result)) :
    result = .ok () ∧ scene.transaction.state.isFinal = true := by
  rcases conducts with ⟨_, active⟩ | ⟨same, final⟩ | dropped
  · cases active.symm.trans finished
  · cases same.symm.trans finished
    exact ⟨rfl, final⟩
  · cases dropped.symm.trans finished

/-- A run is carried on for a request. -/
theorem conducts_of_carryOn {t : Transaction} {run : Run}
    (standing : Standing t.ledger scene.exchanges callback (some run))
    (inside : index < scene.requests.length)
    (carried : after.requests = scene.requests.set index
      (t.carryOn backend.recording run scene.backend).1.request)
    (transaction : after.transaction = (t.carryOn backend.recording run scene.backend).2.1) :
    after.Conducts index := by
  have final (result : Except Error Unit) (next : Transaction) (later : σ × List Exchange) :=
    @Transaction.final_of_carryOn t next σ backend callback run scene.backend later result standing
  rcases polled : t.carryOn backend.recording run scene.backend with ⟨next | result, next', later⟩
  · rw [polled] at carried
    exact .inl ⟨next, by rw [carried]; exact List.getElem?_set_self inside⟩
  · obtain ⟨rfl, decided⟩ := final result next' later polled
    rw [polled] at carried transaction
    right
    left
    constructor
    · rw [carried]
      exact List.getElem?_set_self inside
    · rw [transaction]
      exact decided

/-- A request which is made of a complete transaction begins a run with its first
poll. -/
theorem conducts_pollReady (coherent : scene.Coherent callback current)
    (ready : scene.transaction.Ready)
    (requested : scene.requests[index]? = some (.active .unstarted)) :
    (scene.step backend (.poll index)).Conducts index := by
  have inside := (List.getElem?_eq_some_iff.mp requested).1
  have admission := scene.transaction.admission
  rw [step_poll backend scene requested, pollRequest, Transaction.execute]
  generalize scene.transaction.begin = result at admission ⊢
  cases admission with
  | unsubscribed missing => exact absurd ready.subscribed missing
  | miscounted _ miscounted => exact absurd ready.counted miscounted
  | closed gate => cases ready.gate.symm.trans gate
  | late _ begun => exact absurd ready.state begun
  | @unbound _ error _ =>
      right
      left
      constructor
      · exact List.getElem?_set_self inside
      · have settled := Transaction.ledger_settle
          { scene.transaction with gate := true, state := .executing } (.error error)
        exact congrArg TransactionState.isFinal (congrArg Ledger.state settled)
  | admitted ready planned =>
      obtain ⟨-, begun⟩ := Transaction.standing_suspended coherent.standing
        (.admitted ready planned)
      exact conducts_of_carryOn begun inside rfl rfl

/-- Over a backend which never suspends, it also finishes with its first poll. -/
theorem finished_of_ready (prompt : backend.Prompt) (coherent : scene.Coherent callback current)
    (ready : scene.transaction.Ready)
    (requested : scene.requests[index]? = some (.active .unstarted)) :
    (scene.step backend (.poll index)).requests[index]? = some (.finished (.ok ())) ∧
      (scene.step backend (.poll index)).transaction.state.isFinal = true := by
  have inside := (List.getElem?_eq_some_iff.mp requested).1
  have conducts : (scene.step backend (.poll index)).Conducts index :=
    conducts_pollReady coherent ready requested
  obtain ⟨result, executed⟩ := Transaction.execute_of_prompt prompt .unstarted
    scene.transaction scene.backend
  have finished : (scene.step backend (.poll index)).requests[index]? =
      some (.finished result) := by
    rw [step_poll backend scene requested]
    simp only [pollRequest, executed]
    exact List.getElem?_set_self inside
  obtain ⟨rfl, final⟩ := conducts.final_of_finished finished
  exact ⟨finished, final⟩

/-! ## Complete transactions -/

section Complete

variable (backend) (expected : Nat) (threshold : Duration) (state : σ) (before after : List Action)

/-- A pending transaction whose statements are all there and subscribed is ready. -/
theorem ready_run :
    let scene := (initial expected threshold state).run backend before
    scene.transaction.state = .pending → scene.transaction.awaiting = [] →
      scene.transaction.members.length = expected → scene.transaction.Ready := by
  intro scene pending subscribed counted
  obtain ⟨callback, current, coherent⟩ := coherent_run expected threshold state backend before
  have sound := sound_run expected threshold state backend before
  have gate : scene.transaction.gate = false :=
    (coherent.standing.gathering_of_pending pending).1.gate
  exact ⟨subscribed, counted.trans sound.created.symm, gate, pending⟩

/-- Over a backend which never suspends, it also finishes at once. -/
theorem finished_of_complete {backend : Backend σ} (prompt : backend.Prompt) :
    let ready := (initial expected threshold state).run backend before
    let index := ready.requests.length
    let scene := ready.run backend [.request, .poll index]
    ready.transaction.Ready →
      scene.requests[index]? = some (.finished (.ok ())) ∧
        scene.transaction.state.isFinal = true := by
  intro ready index scene complete
  obtain ⟨callback, current, coherent⟩ := coherent_run expected threshold state backend before
  obtain ⟨_, requested⟩ := coherent.step backend .request
  exact finished_of_ready prompt requested complete List.getElem?_concat_length

end Complete

end Scene

end NamedSql
