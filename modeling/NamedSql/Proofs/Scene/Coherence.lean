import NamedSql.Proofs.Scene.Basic

/-!
# Coherence of scenes

At any time at most one request, or the execution which participants share, holds the
run which is underway, and no statement is awaited any more once a run has begun.
This carries the standing of the transaction through all interleavings.
-/

namespace NamedSql

open Ledger (Standing)

/-- The run which a request holds. -/
def Request.run? : Request → Option Run
  | .active (.running run) => some run
  | _ => none

/-- The run which the shared execution holds. -/
def SharedExecution.run? : SharedExecution → Option Run
  | .active (.running run) => some run
  | _ => none

namespace Transaction

variable {t : Transaction} {σ : Type} (backend : Backend σ) {callback : Option String}
  {current : Option Run} {execution : Execution}

/-- A run begins only when no statement is awaited. -/
theorem awaiting_of_begun {state : σ} (pending : t.state = .pending)
    (begun : (t.execute backend .unstarted state).2.1.state ≠ .pending) : t.awaiting = [] := by
  have admission := t.admission
  simp only [execute] at begun
  generalize t.begin = result at admission begun
  cases admission with
  | unsubscribed _ => exact absurd pending begun
  | miscounted subscribed _ => exact subscribed
  | closed _ => exact absurd pending begun
  | late _ other => exact absurd pending other
  | unbound ready _ => exact ready.subscribed
  | admitted ready _ => exact ready.subscribed

/-- Nothing is awaited after a run has begun, whoever is polled. -/
theorem closed_execute {exchanges : List Exchange} (state : σ)
    (standing : Standing t.ledger exchanges callback current)
    (held : ∀ run, execution = .running run → current = some run)
    (closed : t.state ≠ .pending → t.awaiting = [])
    (begun : (t.execute backend execution state).2.1.state ≠ .pending) :
    (t.execute backend execution state).2.1.awaiting = [] := by
  have kept := (t.keeps_execute backend execution state).attendance
  have same : (t.execute backend execution state).2.1.awaiting = t.awaiting :=
    congrArg Attendance.awaiting kept
  rw [same]
  by_cases pending : t.state = .pending
  · obtain ⟨_, _, _, idle⟩ := standing.gathering_of_pending pending
    cases execution with
    | running run => exact nomatch idle.symm.trans (held run rfl)
    | unstarted => exact awaiting_of_begun backend pending begun
  · exact closed pending

/-- A request begins a run only if none is underway. -/
theorem idle_of_suspended {exchanges : List Exchange} {state : σ} {run : Run}
    (standing : Standing t.ledger exchanges callback current)
    (suspended : (t.execute backend .unstarted state).1.request.run? = some run) :
    current = none := by
  have admission := t.admission
  simp only [execute] at suspended
  generalize t.begin = result at admission suspended
  rcases result with ⟨run | result, after⟩
  · exact (standing_suspended standing admission).1
  · cases suspended

end Transaction

/-- The run which is underway after a poll is the one held by whoever was polled, if
there is one. -/
theorem Progress.current_eq (execution : Execution) (before : Option Run) (progress : Progress) :
    progress.current execution before =
      progress.request.run?.or
        (if (Request.active execution).run?.isSome then none else before) := by
  cases progress <;> cases execution <;> rfl

namespace Scene

variable {σ : Type}

/-- The run which is held by a request or, without a number, by the participants. -/
def heldBy (scene : Scene σ) : Option Nat → Option Run
  | some index => scene.requests[index]?.bind Request.run?
  | none => scene.transaction.shared.bind SharedExecution.run?

/-- A scene is coherent with the run which is underway and with the failure callback
to be called or called. -/
structure Coherent (scene : Scene σ) (callback : Option String) (current : Option Run) : Prop where
  standing : Standing scene.transaction.ledger scene.exchanges callback current
  held : ∃ holder, ∀ other run, scene.heldBy other = some run → other = holder ∧ current = some run
  closed : scene.transaction.state ≠ .pending → scene.transaction.awaiting = []

variable {scene after : Scene σ} {callback : Option String} {current : Option Run}

/-- Nobody holds a run other than the one which is underway. -/
theorem Coherent.current_of_held (coherent : scene.Coherent callback current) {holder : Option Nat}
    {run : Run} (held : scene.heldBy holder = some run) : current = some run := by
  obtain ⟨_, unique⟩ := coherent.held
  exact (unique holder run held).2

/-- A step which runs nothing keeps a scene coherent. -/
theorem Coherent.kept (coherent : scene.Coherent callback current)
    (ledger : after.transaction.ledger = scene.transaction.ledger)
    (backend : after.backend = scene.backend)
    (held : ∀ holder run, after.heldBy holder = some run → scene.heldBy holder = some run)
    (awaiting : scene.transaction.awaiting = [] → after.transaction.awaiting = []) :
    after.Coherent callback current := by
  refine ⟨?_, ?_, ?_⟩
  · rw [ledger, exchanges, backend]
    exact coherent.standing
  · obtain ⟨holder, unique⟩ := coherent.held
    exact ⟨holder, fun other run same => unique other run (held other run same)⟩
  · intro begun
    have same : after.transaction.state = scene.transaction.state := congrArg Ledger.state ledger
    rw [same] at begun
    exact awaiting (coherent.closed begun)

/-- Of those who may hold a run, only one was polled. -/
theorem held_of_polled {before after : Option Nat → Option Run} {current : Option Run}
    (unique : ∃ holder, ∀ other run, before other = some run → other = holder ∧ current = some run)
    (polled : Option Nat) (others : ∀ other, other ≠ polled → after other = before other)
    (fresh : ∀ run, before polled = none → after polled = some run → current = none) :
    ∃ holder, ∀ other run, after other = some run → other = holder ∧
      (after polled).or (if (before polled).isSome then none else current) = some run := by
  obtain ⟨holder, unique⟩ := unique
  cases now : after polled with
  | some next =>
      refine ⟨polled, fun other run held => ?_⟩
      by_cases same : other = polled
      · subst same
        exact ⟨rfl, now.symm.trans held⟩
      · rw [others other same] at held
        have earlier := unique other run held
        cases was : before polled with
        | some run =>
            have := unique polled run was
            exact absurd (earlier.1.trans this.1.symm) same
        | none =>
            have idle := fresh next was now
            rw [idle] at earlier
            cases earlier.2
  | none =>
      refine ⟨holder, fun other run held => ?_⟩
      have same : other ≠ polled := by
        rintro rfl
        rw [now] at held
        cases held
      rw [others other same] at held
      have earlier := unique other run held
      cases was : before polled with
      | some run =>
          have := unique polled run was
          exact absurd (earlier.1.trans this.1.symm) same
      | none => exact ⟨earlier.1, by simpa using earlier.2⟩

variable (backend : Backend σ)

/-- Someone carries the execution on which he holds, or begins one. -/
theorem Coherent.executed (coherent : scene.Coherent callback current) {holder : Option Nat}
    {execution : Execution} (holds : scene.heldBy holder = (Request.active execution).run?)
    {progress : Progress} {t : Transaction} {later : σ × List Exchange}
    (polled : scene.transaction.execute backend.recording execution scene.backend =
      (progress, t, later))
    (ledger : after.transaction.ledger = t.ledger)
    (awaiting : after.transaction.awaiting = t.awaiting) (exchanges : after.backend = later)
    (now : after.heldBy holder = progress.request.run?)
    (others : ∀ other, other ≠ holder → after.heldBy other = scene.heldBy other) :
    ∃ next, after.Coherent callback next := by
  have held : ∀ run, execution = .running run → current = some run := by
    rintro run rfl
    exact coherent.current_of_held holds
  have standing := Transaction.standing_execute backend coherent.standing held
  have closed := Transaction.closed_execute backend.recording scene.backend coherent.standing held
    coherent.closed
  have fresh (run : Run) (idle : scene.heldBy holder = none)
      (begun : after.heldBy holder = some run) : current = none := by
    cases execution with
    | running other => exact nomatch holds.symm.trans idle
    | unstarted =>
        have suspended : (scene.transaction.execute backend.recording .unstarted
            scene.backend).1.request.run? = some run := by rw [polled, ← now, begun]
        exact Transaction.idle_of_suspended _ coherent.standing suspended
  rw [polled] at standing closed
  rw [Progress.current_eq, ← now, ← holds] at standing
  refine ⟨_, ?_, held_of_polled coherent.held holder others fresh, ?_⟩
  · rw [ledger, Scene.exchanges, exchanges]
    exact standing
  · have state : after.transaction.state = t.state := congrArg Ledger.state ledger
    rw [state, awaiting]
    exact closed

theorem Coherent.pollRequest (coherent : scene.Coherent callback current) {index : Nat}
    {execution : Execution} (active : scene.requests[index]? = some (.active execution)) :
    ∃ next, (scene.pollRequest backend index execution).Coherent callback next := by
  have holds : scene.heldBy (some index) = (Request.active execution).run? := by
    rw [heldBy, active]
    rfl
  have inside := (List.getElem?_eq_some_iff.mp active).1
  have kept := (scene.transaction.keeps_execute backend.recording execution scene.backend).attendance
  rcases polled : scene.transaction.execute backend.recording execution scene.backend with
    ⟨progress, t, later⟩
  rw [polled] at kept
  have shared : t.shared = scene.transaction.shared := congrArg Attendance.shared kept
  simp only [Scene.pollRequest, polled]
  apply coherent.executed backend holds polled rfl rfl rfl
  · simp [heldBy, inside]
  · rintro (_ | other) different
    · simp only [heldBy, shared]
    · have unequal : index ≠ other := fun same => different (congrArg some same.symm)
      simp only [heldBy, List.getElem?_set_ne unequal]

/-- Participants may change. -/
theorem Coherent.tended (coherent : scene.Coherent callback current) {t : Transaction}
    (tends : Transaction.Tends scene.transaction t) (resolved : List (Nat × Outcome)) :
    ({ scene with transaction := t, resolved := resolved } : Scene σ).Coherent callback
      current := by
  have attendance := tends.keeps.attendance
  have shared : t.shared = scene.transaction.shared := congrArg Attendance.shared attendance
  have awaiting : t.awaiting = scene.transaction.awaiting :=
    congrArg Attendance.awaiting attendance
  refine coherent.kept tends.ledger rfl ?_ awaiting.trans
  rintro (_ | other) run held
  · simpa only [heldBy, shared] using held
  · exact held

theorem Coherent.subscribeOnce (coherent : scene.Coherent callback current) (id : Nat) :
    ({ scene with transaction := scene.transaction.subscribeOnce id } : Scene σ).Coherent callback
      current := by
  have subscribed := scene.transaction.attendance_subscribeOnce id
  have shared : (scene.transaction.subscribeOnce id).shared.bind SharedExecution.run? =
      scene.transaction.shared.bind SharedExecution.run? := by
    rcases subscribed with same | same | ⟨-, -, same⟩
    · exact congrArg (Attendance.shared · |>.bind SharedExecution.run?) same
    · exact congrArg (Attendance.shared · |>.bind SharedExecution.run?) same
    · rw [show (scene.transaction.subscribeOnce id).shared = _ from congrArg Attendance.shared same]
      cases scene.transaction.shared <;> rfl
  refine coherent.kept (Transaction.ledger_subscribeOnce _ id) rfl ?_ ?_
  · rintro (_ | other) run held
    · exact shared.symm.trans held
    · exact held
  · intro none
    have erased : scene.transaction.awaiting.erase id = [] := by rw [none, List.erase_nil]
    rcases subscribed with same | same | ⟨-, last, same⟩
    · exact (congrArg Attendance.awaiting same).trans none
    · exact (congrArg Attendance.awaiting same).trans erased
    · exact (congrArg Attendance.awaiting same).trans last

theorem Coherent.pollShared (coherent : scene.Coherent callback current)
    {shared : SharedExecution} (started : scene.transaction.shared = some shared) :
    ∃ next, ({ scene with
      transaction :=
        (scene.transaction.pollShared backend.recording shared scene.backend).2.1
      backend := (scene.transaction.pollShared backend.recording shared scene.backend).2.2 } :
        Scene σ).Coherent callback next := by
  cases shared with
  | finished result => exact ⟨current, coherent⟩
  | active execution =>
      have holds : scene.heldBy none = (Request.active execution).run? := by
        rw [heldBy, started]
        cases execution <;> rfl
      rcases polled : scene.transaction.execute backend.recording execution scene.backend with
        ⟨progress, t, later⟩
      obtain ⟨result, shared, errors, finished, kept⟩ :=
        scene.transaction.pollShared_active backend.recording polled
      rw [finished]
      apply coherent.executed backend holds polled rfl rfl rfl
      · cases kept <;> rfl
      · rintro (_ | other) different
        · exact absurd rfl different
        · rfl

theorem Coherent.pollPresent (coherent : scene.Coherent callback current) (id : Nat)
    (waker : Waker) : ∃ next, (scene.pollPresent backend id waker).Coherent callback next := by
  have subscribed := coherent.subscribeOnce id
  have visited := scene.transaction.visited backend.recording id waker scene.backend
  unfold Scene.pollPresent
  generalize scene.transaction.pollParticipant backend.recording id waker scene.backend = result
    at visited ⊢
  rcases result with ⟨outcome, after, later⟩
  cases visited with
  | early _ tends => exact ⟨current, subscribed.tended tends _⟩
  | shared started polled tends =>
      obtain ⟨next, shared⟩ := Coherent.pollShared backend subscribed started
      simp only [polled] at shared
      exact ⟨next, shared.tended tends _⟩

/-! ## Steps and runs -/

/-- The failure callback to be called or called after an action: another one can be
registered as long as nothing was decided. -/
def heard (scene : Scene σ) (callback : Option String) : Action → Option String
  | .onTransactionFailed name =>
    if scene.transaction.state.isFinal then callback else some name
  | _ => callback

theorem Coherent.register (coherent : scene.Coherent callback current)
    (statement : Except Error Statement) (sink : Sink) :
    (scene.register (scene.transaction.add statement sink)).Coherent callback current := by
  by_cases pending : scene.transaction.state = .pending
  · obtain ⟨after, added, ledger⟩ := Transaction.add_of_pending pending statement sink
    obtain ⟨gathering, silent, registered, rfl⟩ := coherent.standing.gathering_of_pending pending
    have kept := (scene.transaction.keeps_add added).attendance
    have shared : after.shared = scene.transaction.shared := congrArg Attendance.shared kept
    have state : after.state = scene.transaction.state := congrArg Ledger.state ledger
    rw [added]
    refine ⟨?_, ?_, fun begun => absurd (state.trans pending) begun⟩
    · rw [Scene.register, ledger]
      exact .gathering (gathering.add _) silent registered
    · obtain ⟨holder, unique⟩ := coherent.held
      refine ⟨holder, ?_⟩
      rintro (_ | other) run held
      · rw [heldBy, Scene.register, shared] at held
        exact unique none run held
      · exact unique (some other) run held
  · rw [Transaction.add_of_not_pending pending]
    exact coherent

theorem Coherent.onTransactionFailed (coherent : scene.Coherent callback current) (name : String) :
    (scene.step backend (.onTransactionFailed name)).Coherent
      (scene.heard callback (.onTransactionFailed name)) current := by
  refine ⟨?_, ?_, coherent.closed⟩
  · have standing := coherent.standing
    cases standing with
    | gathering gathering silent registered =>
        have open? : scene.transaction.state.isFinal = false :=
          congrArg TransactionState.isFinal gathering.state
        rw [heard, open?]
        exact .gathering ⟨gathering.state, gathering.gate, gathering.lines, gathering.notices⟩
          silent rfl
    | underway underway registered =>
        have open? : scene.transaction.state.isFinal = false :=
          congrArg TransactionState.isFinal underway.state
        rw [heard, open?]
        exact .underway { underway with } rfl
    | @settled outcome outputs settled =>
        have closed : scene.transaction.state.isFinal = true :=
          (congrArg TransactionState.isFinal settled.state).trans (by cases outcome <;> rfl)
        rw [heard, closed]
        exact .settled { settled with }
  · obtain ⟨holder, unique⟩ := coherent.held
    refine ⟨holder, ?_⟩
    rintro (_ | other) run held
    · exact unique none run held
    · exact unique (some other) run held

/-- A new request holds no run. -/
theorem run?_request (requests : List Request) (other : Nat) :
    (requests ++ [.active .unstarted])[other]?.bind Request.run? =
      requests[other]?.bind Request.run? := by
  by_cases inside : other < requests.length
  · rw [List.getElem?_append_left inside]
  · have outside : requests.length ≤ other := Nat.le_of_not_lt inside
    rw [List.getElem?_append_right outside, List.getElem?_eq_none outside]
    cases other - requests.length <;> rfl

/-- A dropped request does not hold a run any more. -/
theorem run?_of_drop {requests : List Request} {index other : Nat} {run : Run}
    (held : (requests.modify index Request.drop)[other]?.bind Request.run? = some run) :
    requests[other]?.bind Request.run? = some run := by
  rw [List.getElem?_modify] at held
  split at held
  · cases found : requests[other]? with
    | none =>
        rw [found] at held
        exact held
    | some request =>
        rw [found] at held
        cases request <;> cases held
  · simpa using held

/-- Every action keeps a scene coherent. -/
theorem Coherent.step (coherent : scene.Coherent callback current) (action : Action) :
    ∃ next, (scene.step backend action).Coherent (scene.heard callback action) next := by
  cases action with
  | add statement name refuses => exact ⟨current, coherent.register statement _⟩
  | participate statement => exact ⟨current, coherent.register statement _⟩
  | markSubscribed id =>
      refine ⟨current, coherent.kept (Transaction.ledger_markSubscribed _ id) rfl ?_ ?_⟩
      · rintro (_ | other) run held <;> exact held
      · intro none
        exact (congrArg (List.erase · id) none).trans rfl
  | markAllSubscribed =>
      refine ⟨current, coherent.kept (Transaction.ledger_markAllSubscribed _) rfl ?_ ?_⟩
      · rintro (_ | other) run held <;> exact held
      · exact fun _ => rfl
  | onTransactionFailed name => exact ⟨current, coherent.onTransactionFailed backend name⟩
  | request =>
      refine ⟨current, coherent.kept rfl rfl ?_ id⟩
      rintro (_ | other) run held
      · exact held
      · exact (run?_request scene.requests other).symm.trans held
  | poll index =>
      simp only [Scene.step]
      split
      next execution active => exact coherent.pollRequest backend active
      next => exact ⟨current, coherent⟩
  | drop index =>
      refine ⟨current, coherent.kept rfl rfl ?_ id⟩
      rintro (_ | other) run held
      · exact held
      · exact run?_of_drop held
  | pollParticipant id waker =>
      simp only [Scene.step]
      split
      · exact coherent.pollPresent backend id waker
      · exact ⟨current, coherent⟩
  | dropParticipant id => exact ⟨current, coherent.tended (Transaction.tends_depart _ id) _⟩

end Scene

end NamedSql
