import NamedSql.Proofs.Scene.Basic

/-!
# What polls preserve

All that a transaction ever does to its backend is to poll it.  Whatever every poll preserves
therefore holds of the backend after every run.
-/

namespace NamedSql

variable {σ : Type} {backend : Backend σ} {Invariant : σ → Prop}

/-- Every poll preserves a property of the state. -/
def Backend.Preserves (backend : Backend σ) (Invariant : σ → Prop) : Prop :=
  ∀ operation suspended state, Invariant state →
    Invariant (backend.poll operation suspended state).2

namespace Transaction

variable (preserved : backend.Preserves Invariant)

include preserved

theorem invariant_drive (run : Run) (t : Transaction) {state : σ} (initially : Invariant state) :
    Invariant (t.drive backend run state).2.2 := by
  have polled {run : Run} {before after : σ}
      {answer : Option (Except Error run.phase.operation.Answer)} (holds : Invariant before)
      (polled : backend.poll run.phase.operation run.suspended before = (answer, after)) :
      Invariant after := by
    have later := preserved run.phase.operation run.suspended before holds
    rwa [polled] at later
  fun_induction drive backend run t state with
  | case1 run t state later suspended => exact polled initially suspended
  | case2 run t state answer later answered => exact polled initially answered
  | case3 run t state answer later answered _ _ _ _ _ inductionHypothesis =>
      exact inductionHypothesis (polled initially answered)

theorem invariant_carryOn (run : Run) (t : Transaction) {state : σ}
    (initially : Invariant state) : Invariant (t.carryOn backend run state).2.2 := by
  have driven := invariant_drive preserved run t initially
  unfold carryOn
  generalize t.drive backend run state = result at driven ⊢
  rcases result with ⟨_ | _, _, _⟩ <;> exact driven

theorem invariant_execute (execution : Execution) (t : Transaction) {state : σ}
    (initially : Invariant state) : Invariant (t.execute backend execution state).2.2 := by
  cases execution with
  | running run => exact invariant_carryOn preserved run t initially
  | unstarted =>
      simp only [execute]
      rcases t.begin with ⟨run | result, after⟩
      · exact invariant_carryOn preserved run after initially
      · exact initially

theorem invariant_pollShared (shared : SharedExecution) (t : Transaction) {state : σ}
    (initially : Invariant state) : Invariant (t.pollShared backend shared state).2.2 := by
  cases shared with
  | finished result => exact initially
  | active execution =>
      have executed := invariant_execute preserved execution t initially
      simp only [pollShared]
      generalize t.execute backend execution state = result at executed ⊢
      rcases result with ⟨_ | _ | _, _, _⟩ <;> exact executed

theorem invariant_pollParticipant (id : Nat) (waker : Waker) (t : Transaction) {state : σ}
    (initially : Invariant state) : Invariant (t.pollParticipant backend id waker state).2.2 := by
  simp only [pollParticipant]
  cases (t.subscribeOnce id).shared with
  | none => exact initially
  | some shared =>
      have polled := invariant_pollShared preserved shared (t.subscribeOnce id) initially
      simp only
      generalize (t.subscribeOnce id).pollShared backend shared state = result at polled ⊢
      rcases result with ⟨_ | _ | _, _, _⟩ <;> exact polled

end Transaction

namespace Scene

variable {Recorded : σ × List Exchange → Prop}

/-- What every poll preserves of the state and of the record of polls holds after every run. -/
theorem invariant_backend (preserved : backend.recording.Preserves Recorded) {scene : Scene σ}
    (initially : Recorded scene.backend) (actions : List Action) :
    Recorded (scene.run backend actions).backend := by
  apply invariant_run backend (fun scene => Recorded scene.backend) _ initially
  intro scene action holds
  have registered (added : Except Error (Nat × Transaction)) :
      Recorded (scene.register added).backend := by
    cases added <;> exact holds
  cases action with
  | add statement name refuses => exact registered _
  | participate statement => exact registered _
  | poll index =>
      simp only [step]
      split
      next execution _ =>
        exact Transaction.invariant_execute preserved execution scene.transaction holds
      next => exact holds
  | pollParticipant id waker =>
      simp only [step]
      split
      · exact Transaction.invariant_pollParticipant preserved id waker scene.transaction holds
      · exact holds
  | _ => exact holds

end Scene

end NamedSql
