import NamedSql.Proofs.Scene.Basic
import NamedSql.Proofs.Transaction.Waiting

/-!
# Waking those who wait for the execution

Whoever is polled before the shared execution is started is registered, by a waker which is alike
to its own and so wakes the same task.  The poll which starts the execution wakes exactly those who
are registered, and nobody is registered any more.
-/

namespace NamedSql

/-- A poll of a participant. -/
structure Poll where
  participant : Nat
  waker : Waker
  /-- Whether the participant did not resolve. -/
  pending : Bool
deriving DecidableEq

/-- The last poll of a participant was pending, and was made with the given waker. -/
def Awaits (polls : List Poll) (participant : Nat) (waker : Waker) : Prop :=
  ∃ earlier later, polls = earlier ++ ⟨participant, waker, true⟩ :: later ∧
    ∀ poll ∈ later, poll.participant ≠ participant

namespace Scene

variable {σ : Type}

/-- The poll which is made by an action, if the participant is there. -/
def poll? (backend : Backend σ) (scene : Scene σ) : Action → Option Poll
  | .pollParticipant id waker =>
    if scene.transaction.isPresent id then
      let (outcome, _) :=
        scene.transaction.pollParticipant backend.recording id waker scene.backend
      some ⟨id, waker, outcome.isNone⟩
    else none
  | _ => none

/-- The polls which are made by actions, one after another. -/
def polls (backend : Backend σ) (scene : Scene σ) (actions : List Action) : List Poll :=
  scene.gather backend (fun scene action => (scene.poll? backend action).toList) actions

variable (backend : Backend σ) (scene : Scene σ)

theorem assembly_register (statement : Except Error Statement) (sink : Sink) :
    (scene.register (scene.transaction.add statement sink)).transaction.assembly =
      scene.transaction.assembly := by
  cases added : scene.transaction.add statement sink with
  | error error => rfl
  | ok result => exact scene.transaction.assembly_add added

/-- Only polls of participants concern those who wait. -/
theorem proceeds_step (action : Action) :
    scene.transaction.assembly.Proceeds ((scene.poll? backend action).toList.map Poll.waker)
      (scene.step backend action).transaction.assembly := by
  have apart {after : Transaction} (same : after.assembly = scene.transaction.assembly) :
      scene.transaction.assembly.Proceeds [] after.assembly := by
    rw [same]
    exact .apart
  cases action with
  | add statement name refuses => exact apart (scene.assembly_register statement _)
  | participate statement => exact apart (scene.assembly_register statement _)
  | poll index =>
      apply apart
      simp only [step]
      split
      next execution _ => exact scene.transaction.assembly_execute backend.recording execution _
      next => rfl
  | pollParticipant id waker =>
      simp only [step, poll?]
      split
      next =>
        exact scene.transaction.proceeds_pollParticipant backend.recording id waker scene.backend
      next => exact .apart
  | markSubscribed id => exact .apart
  | markAllSubscribed => exact .apart
  | onTransactionFailed callback => exact .apart
  | request => exact .apart
  | drop index => exact .apart
  | dropParticipant id => exact .apart

/-- Whoever was polled in a run is registered, until the shared execution is started. -/
theorem gathered_run (expected : Nat) (threshold : Duration) (state : σ) (actions : List Action) :
    ((initial expected threshold state).run backend actions).transaction.assembly.Gathered
      (((initial expected threshold state).polls backend actions).map Poll.waker) := by
  refine invariant_gather backend
    (fun polls scene => scene.transaction.assembly.Gathered (polls.map Poll.waker)) ?_ ?_ actions
  · intro polls scene action gathered
    rw [List.map_append]
    exact gathered.proceeds (scene.proceeds_step backend action)
  · exact .waiting List.nodup_nil fun _ => Iff.rfl

/-- Those who wait stay as they are once the shared execution was started. -/
theorem assembly_run_of_started (started : scene.transaction.shared ≠ none)
    (actions : List Action) :
    (scene.run backend actions).transaction.assembly = scene.transaction.assembly := by
  have begun : scene.transaction.assembly.started = true :=
    Option.isSome_iff_ne_none.mpr started
  refine invariant_run backend
    (fun later => later.transaction.assembly = scene.transaction.assembly) ?_ rfl actions
  intro later action same
  rw [← same] at begun ⊢
  exact (later.proceeds_step backend action).of_started begun

theorem exists_of_poll? {action : Action} {poll : Poll}
    (polled : scene.poll? backend action = some poll) :
    ∃ id waker, action = .pollParticipant id waker := by
  cases action with
  | pollParticipant id waker => exact ⟨id, waker, rfl⟩
  | _ => cases polled

/-- No wake-up is lost when the shared execution is started.  It is started by a poll.  For every
participant whose last poll was pending, a waker of the task which polled it is among the waiters
then.  Nobody was woken before, exactly the waiters are woken, and from then on nobody waits or is
woken any more, since the execution is there for every poll.  There are never two waiters which are
alike. -/
theorem woken_at_start (expected : Nat) (threshold : Duration) (state : σ) (actions : List Action)
    (action : Action)
    (idle : ((initial expected threshold state).run backend actions).transaction.shared = none)
    (starts : (((initial expected threshold state).run backend actions).step backend
      action).transaction.shared ≠ none) :
    let scene := (initial expected threshold state).run backend actions
    (∃ id waker, action = .pollParticipant id waker) ∧
    (∀ id last, Awaits ((initial expected threshold state).polls backend actions) id last →
      ∃ waiter ∈ scene.transaction.waiters, waiter.task = last.task) ∧
    (∀ run, ((initial expected threshold state).run backend run).transaction.waiters.Nodup) ∧
    scene.transaction.woken = [] ∧
    ∀ later, let after := ((scene.step backend action).run backend later).transaction
      after.shared ≠ none ∧ after.waiters = [] ∧ after.woken = scene.transaction.waiters := by
  intro scene
  have gathered := gathered_run backend expected threshold state actions
  have waiting : scene.transaction.assembly.started = false :=
    Option.isSome_eq_false_iff.mpr (Option.isNone_iff_eq_none.mpr idle)
  obtain ⟨silent, registered⟩ := gathered.of_idle waiting
  obtain ⟨polled, started⟩ := (scene.proceeds_step backend action).of_starting waiting
    (Option.isSome_iff_ne_none.mpr starts)
  refine ⟨?_, ?_, ?_, silent, ?_⟩
  · cases poll : scene.poll? backend action with
    | none => exact absurd (by rw [poll]; rfl) polled
    | some _ => exact exists_of_poll? backend scene poll
  · rintro id last ⟨earlier, later, polls, -⟩
    refine ⟨last, (registered last).mpr ?_, rfl⟩
    rw [polls]
    simp
  · intro run
    exact (gathered_run backend expected threshold state run).distinct
  · intro later after
    have kept : after.assembly = scene.transaction.assembly.start :=
      (assembly_run_of_started backend _ starts later).trans started
    refine ⟨?_, congrArg Assembly.waiters kept, ?_⟩
    · exact Option.isSome_iff_ne_none.mp (congrArg Assembly.started kept)
    · refine (congrArg Assembly.woken kept).trans ?_
      change scene.transaction.woken ++ scene.transaction.waiters = _
      rw [show scene.transaction.woken = [] from silent, List.nil_append]

/-- Two participants are polled by one task, whose waker is registered once, and then one of them by
another task: both tasks are woken when the last participant is polled. -/
theorem woken_at_start_moved :
    let backend := Backend.suspending (fun _ => true)
      (fun operation (state : Unit) => (.ok operation.success, state)) fun _ => ⟨0⟩
    let update (text : String) : Except Error Statement := .ok ⟨text, .update, ⟨text, []⟩, []⟩
    let actions : List Action :=
      [.participate (update "a"), .participate (update "b"), .participate (update "c"),
        .pollParticipant 0 ⟨0, 0⟩, .pollParticipant 1 ⟨0, 0⟩, .pollParticipant 0 ⟨1, 0⟩]
    let scene := (initial 3 ⟨0⟩ ()).run backend actions
    let started := scene.step backend (.pollParticipant 2 ⟨2, 0⟩)
    let polls := (initial 3 ⟨0⟩ ()).polls backend actions
    scene.transaction.shared = none ∧ started.transaction.shared ≠ none ∧
      Awaits polls 0 ⟨1, 0⟩ ∧ Awaits polls 1 ⟨0, 0⟩ ∧
      (∃ waiter ∈ scene.transaction.waiters, waiter.task = 1) ∧
      (∃ waiter ∈ scene.transaction.waiters, waiter.task = 0) ∧
      scene.transaction.waiters = [⟨0, 0⟩, ⟨1, 0⟩] ∧
      ∀ later, let after := (started.run backend later).transaction
        after.waiters = [] ∧ after.woken = [⟨0, 0⟩, ⟨1, 0⟩] := by
  intro backend update actions scene started polls
  -- Unfolded by name, since unification would run the scenes instead.
  simp only [scene, started, polls]
  have idle : ((initial 3 ⟨0⟩ ()).run backend actions).transaction.shared = none := by
    rw [← Option.isNone_iff_eq_none]
    decide +kernel
  have starts : (((initial 3 ⟨0⟩ ()).run backend actions).step backend
      (.pollParticipant 2 ⟨2, 0⟩)).transaction.shared ≠ none := by
    rw [← Option.isSome_iff_ne_none]
    decide +kernel
  have made : (initial 3 ⟨0⟩ ()).polls backend actions =
      [⟨0, ⟨0, 0⟩, true⟩, ⟨1, ⟨0, 0⟩, true⟩, ⟨0, ⟨1, 0⟩, true⟩] := by decide +kernel
  have first : Awaits ((initial 3 ⟨0⟩ ()).polls backend actions) 0 ⟨1, 0⟩ :=
    ⟨[⟨0, ⟨0, 0⟩, true⟩, ⟨1, ⟨0, 0⟩, true⟩], [], made, by decide⟩
  have second : Awaits ((initial 3 ⟨0⟩ ()).polls backend actions) 1 ⟨0, 0⟩ :=
    ⟨[⟨0, ⟨0, 0⟩, true⟩], [⟨0, ⟨1, 0⟩, true⟩], made, by decide⟩
  have waiters : ((initial 3 ⟨0⟩ ()).run backend actions).transaction.waiters =
      [⟨0, 0⟩, ⟨1, 0⟩] := by decide +kernel
  obtain ⟨-, registered, -, -, woken⟩ :=
    woken_at_start backend 3 ⟨0⟩ () actions (.pollParticipant 2 ⟨2, 0⟩) idle starts
  refine ⟨idle, starts, first, second, registered 0 _ first, registered 1 _ second, waiters, ?_⟩
  intro later
  obtain ⟨-, none, all⟩ := woken later
  exact ⟨none, all.trans waiters⟩

end Scene

end NamedSql
