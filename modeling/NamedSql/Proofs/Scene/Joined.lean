import NamedSql.Proofs.Scene.Joining

/-!
# Joined calls

As long as nobody deals with a transaction of joined calls but their participants, it is
executed when the last of them is polled.  Every participant resolves with what its own
call came to: the error which prevented that it was bound, its result once all is
committed, or else the one error which made the transaction fail.
-/

namespace NamedSql

open Ledger (Standing)
open Exchange (answers)

/-! ## What the notices tell -/

namespace Ledger

variable {ledger : Ledger} {exchanges : List Exchange} {callback : Option String}
  {current : Option Run} {id : Nat} {state : TransactionState} {statement : Statement}

end Ledger

/-- What is done with a participant. -/
inductive Turn where
  | poll (id : Nat) (waker : Waker)
  | drop (id : Nat)

/-- A turn as an action of a scene. -/
def Turn.action : Turn → Action
  | .poll id waker => .pollParticipant id waker
  | .drop id => .dropParticipant id

namespace Scene

variable {σ : Type}

/-- A scene in which joined calls are attended to by their participants alone. -/
structure Joined (calls : List Call) (scene : Scene σ) : Prop where
  coherent : ∃ callback current, scene.Coherent callback current
  sound : scene.transaction.attendance.Sound calls.length
  justified : scene.Justified
  statements : scene.transaction.attendance.statements.map (·.mapError SharedError.error) =
    calls.map Call.statement
  accepted : ¬ scene.transaction.Refused
  forewarned : scene.transaction.Forewarned
  resolved : ∀ id error outcome,
    scene.transaction.attendance.statements[id]? = some (.error error) →
      (id, outcome) ∈ scene.resolved → outcome = .error error

variable {backend : Backend σ} {scene : Scene σ} {callback : Option String}
  {current : Option Run} {calls : List Call}

/-- A poll lets nobody resolve but the participant which is polled. -/
theorem mem_resolved_pollPresent (backend : Backend σ) (scene : Scene σ) (other : Nat)
    (waker : Waker) (id : Nat) (outcome : Outcome) :
    (id, outcome) ∈ (scene.pollPresent backend other waker).resolved ↔
      (id, outcome) ∈ scene.resolved ∨
        id = other ∧ (scene.transaction.pollParticipant backend.recording other waker
          scene.backend).1 = some outcome := by
  rw [pollPresent]
  rcases scene.transaction.pollParticipant backend.recording other waker scene.backend with
    ⟨_ | result, after, later⟩
  · simp
  · simp [eq_comm]

/-- While the shared execution is running, all statements are bound. -/
theorem Coherent.bound_of_running (coherent : scene.Coherent callback current) {run : Run}
    (running : scene.transaction.shared = some (.active (.running run))) (id : Nat)
    (error : SharedError) : scene.transaction.attendance.statements[id]? ≠ some (.error error) := by
  have held : scene.heldBy none = some run := by
    rw [heldBy, running]
    rfl
  have standing := coherent.standing
  rw [coherent.current_of_held held] at standing
  intro failed
  cases standing with
  | underway underway _ =>
      have bound := bound_of_planOf underway.planned
      rw [Transaction.statements_ledger] at bound
      change scene.transaction.attendance.statements = _ at bound
      rw [bound, List.getElem?_map, List.getElem?_map] at failed
      simp at failed

namespace Joined

theorem counted (joined : scene.Joined calls) :
    scene.transaction.members.length = calls.length := by
  have statements := congrArg List.length joined.statements
  simpa [Transaction.attendance] using statements

/-- A participant whose call could not be bound resolves when it is polled. -/
theorem resolves (joined : scene.Joined calls) {id : Nat} {error : SharedError}
    (failed : scene.transaction.attendance.statements[id]? = some (.error error))
    (waker : Waker) :
    (scene.transaction.pollParticipant backend.recording id waker scene.backend).1 =
      some (.error error) := by
  obtain ⟨callback, current, coherent⟩ := joined.coherent
  obtain ⟨told, handed⟩ := joined.forewarned id error failed
  have counted := joined.counted.trans joined.sound.created.symm
  have accepted := Transaction.unrefused_pollParticipant backend.recording joined.sound counted
    joined.accepted id waker scene.backend
  rcases Transaction.resolved_of_told backend.recording told handed waker scene.backend accepted
    with resolves | ⟨run, running⟩
  · exact resolves
  · obtain ⟨next, polled⟩ := coherent.pollPresent backend id waker
    have attended := Transaction.attended_pollParticipant backend.recording scene.transaction id
      waker scene.backend
    apply absurd failed
    rw [← attended.1]
    exact polled.bound_of_running running id error

/-- Every turn keeps joined calls to themselves. -/
theorem step (joined : scene.Joined calls) (turn : Turn) :
    (scene.step backend turn.action).Joined calls := by
  obtain ⟨callback, current, coherent⟩ := joined.coherent
  have counted := joined.counted.trans joined.sound.created.symm
  have grows := scene.grows_step backend turn.action
  -- Statements stay, so that whoever was forewarned still is.
  have statements : (scene.step backend turn.action).transaction.attendance.statements =
      scene.transaction.attendance.statements := by
    cases turn with
    | drop id => exact congrArg Attendance.statements (scene.transaction.keeps_depart id).attendance
    | poll id waker =>
        simp only [Turn.action, Scene.step]
        split
        · exact (Transaction.attended_pollParticipant backend.recording _ id waker _).1
        · rfl
  refine ⟨⟨_, coherent.step backend turn.action⟩, sound_step joined.sound _,
    joined.justified.step coherent joined.sound _, ?_, ?_, ?_, ?_⟩
  · rw [statements]
    exact joined.statements
  · cases turn with
    | drop id => exact (scene.transaction.keeps_depart id).refused_iff.not.mpr joined.accepted
    | poll id waker =>
        simp only [Turn.action, Scene.step]
        split
        · exact Transaction.unrefused_pollParticipant backend.recording joined.sound counted
            joined.accepted id waker _
        · exact joined.accepted
  · intro id error failed
    rw [statements] at failed
    obtain ⟨told, handed⟩ := joined.forewarned id error failed
    obtain ⟨still, same⟩ := grows.told id told
    exact ⟨still, same.trans handed⟩
  · intro id error outcome failed resolved
    rw [statements] at failed
    cases turn with
    | drop other => exact joined.resolved id error outcome failed resolved
    | poll other waker =>
        simp only [Turn.action, Scene.step] at resolved
        split at resolved
        · rw [mem_resolved_pollPresent] at resolved
          rcases resolved with earlier | ⟨rfl, now⟩
          · exact joined.resolved id error outcome failed earlier
          · exact Option.some.inj (now.symm.trans (joined.resolves failed waker))
        · exact joined.resolved id error outcome failed resolved

theorem run (joined : scene.Joined calls) (turns : List Turn) :
    (scene.run backend (turns.map Turn.action)).Joined calls := by
  induction turns generalizing scene with
  | nil => exact joined
  | cons turn turns inductionHypothesis => exact inductionHypothesis (joined.step turn)

end Joined

/-- Calls are joined before anyone attends to them. -/
theorem joined_sceneOf (backend : Backend σ) (threshold : Duration) (state : σ) {t : Transaction}
    (joining : t.Joining calls)
    (reached : (initial calls.length threshold state).run backend
      (calls.map fun call => .participate call.statement) = sceneOf t state) :
    (sceneOf t state).Joined calls := by
  have coherent := coherent_run calls.length threshold state backend
    (calls.map fun call => .participate call.statement)
  have sound := sound_run calls.length threshold state backend
    (calls.map fun call => .participate call.statement)
  have justified := justified_run backend calls.length threshold state
    (calls.map fun call => .participate call.statement)
  rw [reached] at coherent sound justified
  refine ⟨coherent, sound, justified, joining.statements, ?_, joining.forewarned, ?_⟩
  · rintro ⟨error, finished⟩
    exact nomatch joining.idle.symm.trans finished
  · intro id error outcome _ resolved
    cases resolved

/-- A participant of a joined call resolves with nothing but what its call came to. -/
theorem Joined.noticed (joined : scene.Joined calls) {id : Nat} {outcome : Outcome}
    (resolved : (id, outcome) ∈ scene.resolved) :
    ∃ state, .notified id state outcome ∈ scene.transaction.ledger.notices := by
  cases joined.justified.resolved id outcome resolved with
  | refused finished => exact absurd ⟨_, finished⟩ joined.accepted
  | failed noticed => exact ⟨_, noticed⟩
  | completed noticed _ => exact ⟨_, noticed⟩

end Scene

end NamedSql
