import NamedSql.Proofs.Scene.Attended
import NamedSql.Proofs.Transaction.Destiny

/-!
# Surviving participants

The shared execution of joined calls belongs to all participants.  Once each of them was polled,
any one of them which is left carries it on to its end, over every connection which answers at some
time, and resolves with the same outcome whoever else was dropped.
-/

namespace NamedSql

open Exchange (answers)

/-- What was answered while a transaction was executed: nothing is left to be answered, and
the connection was closed if one was acquired. -/
theorem Concluded.closed {statements : List (Except SharedError Statement)}
    {exchanges : List Exchange} {outcome : Except SharedError Unit} {outputs : List Output}
    (concluded : Concluded statements exchanges outcome outputs) :
    Exchange.calls exchanges = (answers exchanges).map (·.operation) ∧
      (⟨.acquire, .ok ()⟩ ∈ answers exchanges →
        (Exchange.calls exchanges).getLast? = some .close) := by
  cases concluded with
  | unbound _ silent =>
      subst silent
      exact ⟨rfl, nofun⟩
  | conducted planned course answered called decides =>
      refine ⟨by rw [called, answered], fun acquired => ?_⟩
      rw [called]
      rw [answered] at acquired
      cases connected : course.acquire with
      | error error =>
          rw [Course.trace, connected] at acquired
          cases List.mem_singleton.mp acquired
      | ok _ =>
          rw [Course.trace_of_acquired connected]
          simp [List.getLast?_cons]

namespace Ledger

variable {ledger : Ledger} {exchanges : List Exchange} {callback : Option String}
  {outcome : Except SharedError Unit} {outputs : List Output}

/-- In a settled transaction, all sinks have been told. -/
theorem Settled.told (settled : ledger.Settled exchanges callback outcome outputs) :
    ∀ line ∈ ledger.lines, line.notified = true := by
  rw [settled.lines]
  intro line among
  obtain ⟨_, _, rfl⟩ := List.mem_mapIdx.mp among
  rfl

/-- In a settled transaction, no statement was told two outcomes. -/
theorem Settled.outcome_eq (settled : ledger.Settled exchanges callback outcome outputs)
    {id : Nat} (inside : id < ledger.statements.length) {first second : Outcome}
    {state other : TransactionState} (noticed : .notified id state first ∈ ledger.notices)
    (again : .notified id other second ∈ ledger.notices) : first = second := by
  have once := settled.countP_notices inside
  rw [List.countP_eq_length_filter, List.length_eq_one_iff] at once
  obtain ⟨notice, only⟩ := once
  have same {state : TransactionState} {outcome : Outcome}
      (noticed : .notified id state outcome ∈ ledger.notices) :
      Event.notified id state outcome = notice := by
    rw [← List.mem_singleton, ← only]
    exact List.mem_filter.mpr ⟨noticed, by simp [Event.isNoticeOf]⟩
  cases (same noticed).trans (same again).symm
  rfl

end Ledger

namespace Scene

variable {σ : Type} {backend : Backend σ} {scene : Scene σ} {calls : List Call} {id : Nat}

/-! ## Joined calls and their fate -/

/-- Joined calls whose shared execution is bound to meet its fate. -/
structure Bound (fate : Transaction.Fate backend.recording) (calls : List Call)
    (scene : Scene σ) : Prop where
  attended : scene.Attended calls
  destined : Transaction.Destined fate scene.transaction scene.backend

namespace Bound

variable {fate : Transaction.Fate backend.recording}

theorem step (bound : scene.Bound fate calls) (turn : Turn) :
    (scene.step backend turn.action).Bound fate calls := by
  refine ⟨bound.attended.step turn, ?_⟩
  cases turn with
  | drop id => exact bound.destined.depart id
  | poll id waker =>
      simp only [Turn.action, Scene.step]
      split
      · exact bound.destined.pollParticipant id waker
      · exact bound.destined

theorem run (bound : scene.Bound fate calls) (turns : List Turn) :
    (scene.run backend (turns.map Turn.action)).Bound fate calls := by
  induction turns generalizing scene with
  | nil => exact bound
  | cons turn turns inductionHypothesis => exact inductionHypothesis (bound.step turn)

/-- The scene once the shared execution has finished. -/
theorem of_finished (bound : scene.Bound fate calls)
    (finished : scene.transaction.shared = some (.finished (.ok ()))) :
    scene.transaction.ledger = fate.goal.ledger ∧ scene.backend = fate.last := by
  have destined := bound.destined
  generalize scene.backend = state at destined ⊢
  cases destined with
  | idle idle _ => cases idle.symm.trans finished
  | active active _ _ _ => cases active.symm.trans finished
  | finished _ same => exact ⟨congrArg Prod.fst same, rfl⟩

/-- Every outcome is one which is told in the end. -/
theorem noticed (bound : scene.Bound fate calls) {outcome : Outcome}
    (resolved : (id, outcome) ∈ scene.resolved) :
    ∃ state, .notified id state outcome ∈ fate.goal.ledger.notices := by
  obtain ⟨state, noticed⟩ := bound.attended.joined.noticed resolved
  exact ⟨state, bound.destined.notices noticed⟩

end Bound

/-! ## Polling one participant until it resolves -/

/-- To poll a participant which is not there has no effect. -/
theorem run_polls_of_absent (backend : Backend σ) (absent : scene.transaction.isPresent id = false)
    (wakers : List Waker) :
    scene.run backend (wakers.map (Action.pollParticipant id)) = scene := by
  induction wakers with
  | nil => rfl
  | cons waker wakers inductionHypothesis =>
      have stays : scene.step backend (.pollParticipant id waker) = scene := by
        rw [step, if_neg (by simp [absent])]
      calc scene.run backend ((waker :: wakers).map (Action.pollParticipant id))
          = (scene.step backend (.pollParticipant id waker)).run backend
              (wakers.map (Action.pollParticipant id)) := rfl
        _ = scene := by rw [stays, inductionHypothesis]

/-- The shared execution has finished, and a participant has resolved. -/
def Resolved (id : Nat) (scene : Scene σ) : Prop :=
  scene.transaction.shared = some (.finished (.ok ())) ∧
    ∃ outcome, (id, outcome) ∈ scene.resolved

variable {fate : Transaction.Fate backend.recording}

section Polls

variable {callback : Option String} {outcome : Except SharedError Unit} {outputs : List Output}
  (settled : fate.goal.ledger.Settled fate.last.2 callback outcome outputs)

include settled

/-- The poll which finds the shared execution finished lets the participant resolve. -/
theorem Bound.resolved_of_finished (bound : scene.Bound fate calls)
    (present : scene.transaction.isPresent id = true) {waker : Waker}
    (finished : (scene.step backend (.pollParticipant id waker)).transaction.shared =
      some (.finished (.ok ()))) (wakers : List Waker) :
    (scene.run backend ((waker :: wakers).map (Action.pollParticipant id))).Resolved id := by
  have next := bound.step (.poll id waker)
  have told := settled.told
  rw [← (next.of_finished finished).1] at told
  change ((scene.step backend (.pollParticipant id waker)).run backend
    (wakers.map (Action.pollParticipant id))).Resolved id
  rw [Turn.action] at told
  rw [Scene.step, if_pos present] at finished told ⊢
  obtain ⟨outcome, resolves⟩ := Option.ne_none_iff_exists'.mp
    (Transaction.resolves_of_finished backend.recording bound.attended.orderly present finished
      told)
  have left := Transaction.left_pollParticipant backend.recording scene.transaction id waker
    scene.backend
  have absent : (scene.pollPresent backend id waker).transaction.isPresent id = false :=
    left.resolved (by rw [resolves]; exact Option.some_ne_none _)
  rw [run_polls_of_absent backend absent]
  exact ⟨finished, outcome,
    (mem_resolved_pollPresent backend scene id waker id outcome).mpr (.inr ⟨rfl, resolves⟩)⟩

/-- A participant which is still there carries a started execution on to its end, and resolves. -/
theorem Bound.exists_polls_of_completes {execution : Execution} {t u : Transaction}
    {state : σ × List Exchange} {result : Except Error Unit} {last : σ × List Exchange}
    (completes : Transaction.Completes backend.recording execution t state result u last)
    (succeeds : result = .ok ()) (bound : scene.Bound fate calls)
    (present : scene.transaction.isPresent id = true)
    (active : scene.transaction.shared = some (.active execution))
    (same : t.books = scene.transaction.books)
    (ready : execution = .unstarted → t.awaiting = [] ∧ scene.transaction.awaiting = [])
    (here : scene.backend = state) :
    ∃ enough, ∀ wakers : List Waker, enough ≤ wakers.length →
      (scene.run backend (wakers.map (Action.pollParticipant id))).Resolved id := by
  -- The induction is on the polls which the execution still takes.
  induction completes generalizing scene with
  | @finished execution t u state last result executed =>
      subst succeeds here
      have alike := Transaction.execute_subscribeOnce backend.recording same ready id scene.backend
      rcases polled : (scene.transaction.subscribeOnce id).execute backend.recording execution
        scene.backend with ⟨progress, after, later⟩
      rw [executed, polled] at alike
      obtain ⟨rfl, -, rfl⟩ := alike
      refine ⟨1, fun wakers enough => ?_⟩
      cases wakers with
      | nil => cases enough
      | cons waker wakers =>
          apply bound.resolved_of_finished settled present
          rw [Scene.step, if_pos present, pollPresent, Transaction.pollParticipant_of_completed
            (Transaction.shared_subscribeOnce active id) polled waker]
          exact congrArg Attendance.shared (Transaction.keeps_receive _ id).attendance
  | @suspended execution run t between u state middle last result executed _ inductionHypothesis =>
      subst here
      have alike := Transaction.execute_subscribeOnce backend.recording same ready id scene.backend
      rcases polled : (scene.transaction.subscribeOnce id).execute backend.recording execution
        scene.backend with ⟨progress, after, later⟩
      rw [executed, polled] at alike
      obtain ⟨rfl, suspends, rfl⟩ := alike
      -- Whoever is to be woken, the poll leads to one and the same scene.
      let next : Scene σ :=
        { scene with
          transaction := { after with shared := some (.active (.running run)) }
          backend := middle
          resolved := scene.resolved ++ [] }
      have stepped (waker : Waker) : scene.step backend (.pollParticipant id waker) = next := by
        rw [Scene.step, if_pos present, pollPresent, Transaction.pollParticipant_of_suspended
          (Transaction.shared_subscribeOnce active id) polled waker]
        rfl
      have waiting (waker : Waker) : next.transaction.isPresent id = true := by
        have left := Transaction.left_pollParticipant backend.recording scene.transaction id waker
          scene.backend
        rw [Transaction.pollParticipant_of_suspended
          (Transaction.shared_subscribeOnce active id) polled waker] at left
        exact (left.unresolved rfl).trans present
      have waker : Waker := ⟨0, 0⟩
      obtain ⟨enough, polls⟩ := inductionHypothesis succeeds
        (stepped waker ▸ bound.step (.poll id waker)) (waiting waker) rfl suspends
        (by rintro ⟨⟩) rfl
      refine ⟨enough + 1, fun wakers many => ?_⟩
      cases wakers with
      | nil => cases many
      | cons waker wakers =>
          change ((scene.step backend (.pollParticipant id waker)).run backend
            (wakers.map (Action.pollParticipant id))).Resolved id
          rw [stepped]
          exact polls wakers (Nat.le_of_succ_le_succ many)

theorem Bound.exists_polls (bound : scene.Bound fate calls)
    (present : scene.transaction.isPresent id = true)
    (started : scene.transaction.shared ≠ none) :
    ∃ enough, ∀ wakers : List Waker, enough ≤ wakers.length →
      (scene.run backend (wakers.map (Action.pollParticipant id))).Resolved id := by
  have destined := bound.destined
  generalize here : scene.backend = state at destined
  cases destined with
  | idle idle _ => exact absurd idle started
  | active active ready completes _ =>
      exact Bound.exists_polls_of_completes settled completes rfl bound present active rfl
        (fun unstarted => ⟨ready unstarted, ready unstarted⟩) here
  | finished finished _ =>
      refine ⟨1, fun wakers enough => ?_⟩
      cases wakers with
      | nil => cases enough
      | cons waker wakers =>
          apply bound.resolved_of_finished settled present
          rw [Scene.step, if_pos present, pollPresent, Transaction.pollParticipant_of_finished
            (Transaction.shared_subscribeOnce finished id) waker]
          exact (congrArg Attendance.shared (Transaction.keeps_receive _ id).attendance).trans
            (Transaction.shared_subscribeOnce finished id)

/-- A participant which nobody has dropped resolves, if it has not done so already. -/
theorem Bound.exists_polls_of_undropped (bound : scene.Bound fate calls)
    (undropped : scene.Undropped id) (started : scene.transaction.shared ≠ none) :
    ∃ enough, ∀ wakers : List Waker, enough ≤ wakers.length → ∃ outcome,
      (id, outcome) ∈ (scene.run backend (wakers.map (Action.pollParticipant id))).resolved := by
  by_cases present : scene.transaction.isPresent id = true
  · obtain ⟨enough, resolves⟩ := bound.exists_polls settled present started
    exact ⟨enough, fun wakers many => (resolves wakers many).2⟩
  · obtain ⟨-, outcome, resolved⟩ := undropped.resolve_left present
    refine ⟨0, fun wakers _ => ⟨outcome, ?_⟩⟩
    rw [run_polls_of_absent backend (by simpa using present)]
    exact resolved

/-- In the end the transaction is committed or rolled back, and its connection is closed. -/
theorem Bound.final (bound : scene.Bound fate calls) (resolved : scene.Resolved id) :
    scene.transaction.state.isFinal = true ∧
      Exchange.calls scene.exchanges = (answers scene.exchanges).map (·.operation) ∧
      (⟨.acquire, .ok ()⟩ ∈ answers scene.exchanges →
        (Exchange.calls scene.exchanges).getLast? = some .close) := by
  obtain ⟨ledger, here⟩ := bound.of_finished resolved.1
  have state : scene.transaction.state = fate.goal.ledger.state := congrArg Ledger.state ledger
  rw [exchanges, here, state, settled.state]
  exact ⟨by cases outcome <;> rfl, settled.concluded.closed⟩

/-- Whatever happens to the other participants, there is one outcome which a participant can
resolve with. -/
theorem Bound.outcome_eq (inside : id < fate.goal.ledger.statements.length)
    {other : Scene σ} (bound : scene.Bound fate calls) (again : other.Bound fate calls)
    {first second : Outcome} (resolved : (id, first) ∈ scene.resolved)
    (resolves : (id, second) ∈ other.resolved) : first = second := by
  obtain ⟨_, noticed⟩ := bound.noticed resolved
  obtain ⟨_, told⟩ := again.noticed resolves
  exact settled.outcome_eq inside noticed told

end Polls

/-- Joined calls are bound to meet a fate over a connection which answers at some time. -/
theorem exists_fate (responsive : backend.Responsive) (threshold : Duration) (state : σ)
    {t : Transaction} (joining : t.Joining calls)
    (reached : (initial calls.length threshold state).run backend
      (calls.map fun call => .participate call.statement) = sceneOf t state) :
    ∃ fate : Transaction.Fate backend.recording, (sceneOf t state).Bound fate calls ∧
      fate.goal.ledger.statements.length = calls.length ∧
      ∃ callback outcome outputs,
        fate.goal.ledger.Settled fate.last.2 callback outcome outputs := by
  have attended := attended_sceneOf backend threshold state joining reached
  obtain ⟨callback, current, coherent⟩ := attended.joined.coherent
  obtain ⟨gathering, silent, registered, -⟩ :=
    coherent.standing.gathering_of_pending joining.pending
  let origin : Transaction := { t with awaiting := [] }
  have created : t.expected = calls.length := attended.joined.sound.created
  have ready : origin.Ready :=
    ⟨rfl, joining.length.trans created.symm, gathering.gate, joining.pending⟩
  obtain ⟨result, goal, last, completes⟩ :=
    Transaction.exists_completes responsive.recording origin (state, [])
  obtain ⟨rfl, settled⟩ :=
    Transaction.settled_of_completes ready (.gathering gathering rfl registered) completes
  have statements : goal.attendance.statements = origin.attendance.statements :=
    congrArg Attendance.statements completes.keeps.attendance
  refine ⟨⟨origin, (state, []), goal, last, rfl, completes⟩, ⟨attended, .idle joining.idle rfl⟩,
    ?_, callback, settled⟩
  calc goal.ledger.statements.length
      = goal.attendance.statements.length := by rw [Transaction.statements_ledger]; rfl
    _ = origin.members.length := by rw [statements, Transaction.attendance, List.length_map]
    _ = calls.length := joining.length

theorem Attended.inside (attended : scene.Attended calls)
    (present : scene.transaction.isPresent id = true) : id < calls.length := by
  rw [← attended.joined.counted]
  rw [Transaction.isPresent_eq] at present
  by_contra outside
  rw [List.getElem?_eq_none (Nat.le_of_not_lt outside)] at present
  cases present

/-- Once everybody is subscribed, the shared execution was started. -/
theorem Attended.started (attended : scene.Attended calls) (inside : id < calls.length)
    (all : ∀ other < calls.length,
      scene.transaction.attendance.subscribed[other]? = some true) :
    scene.transaction.shared ≠ none := by
  have counted : scene.transaction.attendance.subscribed.length = calls.length :=
    (List.length_map _).trans attended.joined.counted
  refine attended.consumed.shared_ne_none ?_ (counted ▸ all)
  exact List.ne_nil_of_length_pos (counted ▸ Nat.zero_lt_of_lt inside)

/-- Dropping participants never abandons a started transaction.  Let joined calls be polled and
dropped in any order, each of them polled at least once before it is dropped, over a connection
which answers every operation after finitely many suspensions.  Then polling any one participant
which is left lets it resolve after finitely many polls, and leaves the transaction committed or
rolled back and its connection closed.  It resolves with the outcome which it has if nobody is
dropped, and could not resolve with any other one. -/
theorem survivor_resolves (backend : Backend σ) (responsive : backend.Responsive)
    (threshold : Duration) (calls : List Call) (state : σ) :
    ∃ t, joinCalls threshold calls = .ok t ∧
      let run (turns : List Turn) := (sceneOf t state).run backend (turns.map Turn.action)
      ∀ turns id,
        (∀ other < calls.length, ∃ before waker after,
          turns = before ++ .poll other waker :: after ∧
            (run before).transaction.isPresent other = true) →
        (run turns).transaction.isPresent id = true →
        ∃ outcome enough, ∀ wakers : List Waker, enough ≤ wakers.length →
          let polls := wakers.map (Turn.poll id)
          let final := run (turns ++ polls)
          (id, outcome) ∈ final.resolved ∧
          final.transaction.state.isFinal = true ∧
          Exchange.calls final.exchanges = (answers final.exchanges).map (·.operation) ∧
          (⟨.acquire, .ok ()⟩ ∈ answers final.exchanges →
            (Exchange.calls final.exchanges).getLast? = some .close) ∧
          (id, outcome) ∈ (run (turns.filter Turn.isPoll ++ polls)).resolved ∧
          ∀ others other, (id, other) ∈ (run others).resolved → other = outcome := by
  obtain ⟨t, joins, joining, reached⟩ := joined_calls backend threshold calls state
  obtain ⟨fate, bound, length, callback, decided, outputs, settled⟩ :=
    exists_fate responsive threshold state joining reached
  refine ⟨t, joins, ?_⟩
  intro run turns id polled present
  have bounds (turns : List Turn) : (run turns).Bound fate calls := bound.run turns
  have continued (turns : List Turn) (wakers : List Waker) :
      run (turns ++ wakers.map (Turn.poll id)) =
        (run turns).run backend (wakers.map (Action.pollParticipant id)) := by
    have actions : (wakers.map (Turn.poll id)).map Turn.action =
        wakers.map (Action.pollParticipant id) := List.map_map
    simp only [run, List.map_append, run_append, actions]
  have subscribed : ∀ other < calls.length,
      (run turns).transaction.attendance.subscribed[other]? = some true := by
    intro other inside
    obtain ⟨before, waker, after, rfl, there⟩ := polled other inside
    simp only [run, List.map_append, List.map_cons, run_append]
    have first := (bounds before).attended.subscribed_poll backend there waker
    exact subscribed_turns backend after first
  have inside := (bounds turns).attended.inside present
  obtain ⟨enough, resolves⟩ := (bounds turns).exists_polls settled present
    ((bounds turns).attended.started inside subscribed)
  -- If nobody is dropped, the participant is still there or has resolved already.
  let undisturbed := turns.filter Turn.isPoll
  have undropped {other : Nat} (within : other < calls.length) :=
    bound.attended.undropped_run backend (.inl (joining.isPresent within)) undisturbed
      fun turn among => (List.mem_filter.mp among).2
  obtain ⟨others, resolvesToo⟩ := (bounds undisturbed).exists_polls_of_undropped settled
    (undropped inside).1 ((bounds undisturbed).attended.started inside fun other within => by
      obtain ⟨before, waker, after, split, -⟩ := polled other within
      exact (undropped within).2 ⟨waker, List.mem_filter.mpr ⟨by simp [split], rfl⟩⟩)
  have unique {first second : List Turn} {outcome other : Outcome}
      (resolved : (id, outcome) ∈ (run first).resolved)
      (again : (id, other) ∈ (run second).resolved) : outcome = other :=
    Bound.outcome_eq settled (length ▸ inside) (bounds first) (bounds second) resolved again
  obtain ⟨-, outcome, resolved⟩ := resolves (List.replicate enough ⟨0, 0⟩) (by simp)
  rw [← continued] at resolved
  refine ⟨outcome, max enough others, fun wakers many => ?_⟩
  have last := resolves wakers (le_trans (le_max_left _ _) many)
  obtain ⟨other, undisturbedly⟩ := resolvesToo wakers (le_trans (le_max_right _ _) many)
  rw [← continued] at last undisturbedly
  obtain ⟨decides, answered, closed⟩ := (bounds _).final settled last
  obtain ⟨same, resolvesLast⟩ := last.2
  refine ⟨unique resolvesLast resolved ▸ resolvesLast, decides, answered, closed,
    unique undisturbedly resolved ▸ undisturbedly, fun turns other again => unique again resolved⟩

/-- The participant which starts the execution is dropped while the connection is acquired, and the
other one carries the transaction on. -/
theorem survivor_of_dropped_starter :
    let backend := Backend.suspending (fun _ => true)
      (fun operation (state : Unit) => (.ok operation.success, state)) fun _ => ⟨0⟩
    let update (text : String) : Call := ⟨.ok ⟨text, .update, ⟨text, []⟩, []⟩, ⟨0⟩⟩
    let turns : List Turn := [.poll 0 ⟨0, 0⟩, .poll 1 ⟨1, 0⟩, .drop 1]
    ∃ t, joinCalls ⟨0⟩ [update "a", update "b"] = .ok t ∧
      let run (turns : List Turn) := (sceneOf t ()).run backend (turns.map Turn.action)
      Exchange.calls (run turns).exchanges = [.acquire] ∧
      ∃ output enough, ∀ wakers : List Waker, enough ≤ wakers.length →
        let final := run (turns ++ wakers.map (Turn.poll 0))
        (0, .ok output) ∈ final.resolved ∧ final.transaction.state.isFinal = true := by
  intro backend update turns
  obtain ⟨t, joins, survives⟩ := survivor_resolves backend
    (Backend.responsive_suspending (fun _ => true) _ fun _ => ⟨0⟩) ⟨0⟩ [update "a", update "b"] ()
  refine ⟨t, joins, ?_⟩
  cases joins
  intro run
  obtain ⟨outcome, enough, survives⟩ := survives turns 0
    (by
      rintro (_ | _ | other) inside
      · exact ⟨[], ⟨0, 0⟩, [.poll 1 ⟨1, 0⟩, .drop 1], rfl, by decide +kernel⟩
      · exact ⟨[.poll 0 ⟨0, 0⟩], ⟨1, 0⟩, [.drop 1], rfl, by decide +kernel⟩
      · exact absurd inside (by simp))
    (by decide +kernel)
  -- Eight more polls are enough to see that both updates succeed.
  let all := turns ++ List.replicate 8 (.poll 0 ⟨0, 0⟩)
  have known : (run all).resolved.map (fun resolved => (resolved.1, resolved.2.isOk)) =
      [(0, true)] := by decide +kernel
  have among : (0, true) ∈ (run all).resolved.map fun resolved => (resolved.1, resolved.2.isOk) :=
    known ▸ List.mem_singleton_self _
  obtain ⟨⟨_, _ | output⟩, resolved, succeeded⟩ := List.mem_map.mp among
  · cases succeeded
  · obtain ⟨rfl, -⟩ := Prod.mk.inj succeeded
    refine ⟨by decide +kernel, output, enough, fun wakers many => ?_⟩
    obtain ⟨resolves, final, -, -, -, unique⟩ := survives wakers many
    exact ⟨unique all _ resolved ▸ resolves, final⟩

end Scene

end NamedSql
