import NamedSql.Proofs.Scene.Joined
import NamedSql.Proofs.Transaction.Presence

/-!
# Participants which attend to joined calls

If nobody but participants subscribe statements, then the shared execution is started as soon as
all of them were polled, and a participant which is not there any more was dropped, or has been
polled and has resolved.
-/

namespace NamedSql

/-! ## Attendance by participants -/

namespace Attendance

/-- Nobody but participants has subscribed statements: who is awaited is not subscribed, and
the shared execution was started when nobody was awaited any more. -/
structure Consumed (attendance : Attendance) : Prop where
  distinct : attendance.awaiting.Nodup
  unsubscribed : ∀ id ∈ attendance.awaiting, attendance.subscribed[id]? = some false
  started : attendance.subscribed ≠ [] → attendance.awaiting = [] → attendance.shared ≠ none

variable {attendance : Attendance}

theorem Consumed.listed (consumed : attendance.Consumed) : attendance.Listed :=
  ⟨consumed.distinct, consumed.unsubscribed⟩

theorem Consumed.enroll (consumed : attendance.Consumed)
    (statement : Except SharedError Statement) : (attendance.enroll statement).Consumed := by
  have listed := consumed.listed.enroll statement
  refine ⟨listed.distinct, listed.unsubscribed, ?_⟩
  intro _ none
  exact absurd none (List.append_ne_nil_of_right_ne_nil _ (List.cons_ne_nil _ _))

/-- A subscription of a statement, by a participant which starts the shared execution if that
was the last one. -/
theorem Consumed.subscribe (consumed : attendance.Consumed) (id : Nat)
    {shared : Option SharedExecution}
    (started : attendance.subscribed ≠ [] → attendance.awaiting.erase id = [] → shared ≠ none) :
    Consumed { attendance.subscribe id with shared := shared } := by
  have listed := consumed.listed.subscribe id
  refine ⟨listed.distinct, listed.unsubscribed, ?_⟩
  intro some none
  apply started _ none
  rintro empty
  apply some
  simp [Attendance.subscribe, empty]

/-- The shared execution was started if every statement is subscribed. -/
theorem Consumed.shared_ne_none (consumed : attendance.Consumed)
    (some : attendance.subscribed ≠ [])
    (all : ∀ id < attendance.subscribed.length, attendance.subscribed[id]? = .some true) :
    attendance.shared ≠ none := by
  apply consumed.started some
  apply List.eq_nil_iff_forall_not_mem.mpr
  intro id awaited
  have unsubscribed := consumed.unsubscribed id awaited
  have inside := (List.getElem?_eq_some_iff.mp unsubscribed).1
  cases unsubscribed.symm.trans (all id inside)

end Attendance

namespace Transaction

variable {t after : Transaction} {id : Nat}

/-- The participant which subscribes the last statement starts the shared execution. -/
theorem started_of_last (awaited : t.awaiting ≠ [])
    (none : (t.subscribeOnce id).awaiting = []) : (t.subscribeOnce id).shared ≠ Option.none := by
  unfold subscribeOnce at none ⊢
  split at none
  · exact absurd none awaited
  next first =>
    rw [if_neg first]
    have polled := congrArg Attendance.awaiting (t.keeps_polled id).attendance
    simp only at none ⊢
    generalize t.modifyMember id _ = s at polled none ⊢
    change s.awaiting = t.awaiting at polled
    split at none
    next last =>
      rw [if_pos last]
      have shared := congrArg Attendance.shared (attendance_startShared (s.markSubscribed id).2)
      intro idle
      cases idle.symm.trans shared
    next others =>
      -- Then as many are awaited as before.
      rw [s.markSubscribed_eq_true_iff id, polled] at others
      exact absurd ⟨awaited, none⟩ others

theorem shared_subscribeOnce {shared : SharedExecution} (started : t.shared = some shared)
    (id : Nat) : (t.subscribeOnce id).shared = some shared := by
  rcases t.attendance_subscribeOnce id with same | same | ⟨-, -, same⟩
  · exact (congrArg Attendance.shared same).trans started
  · exact (congrArg Attendance.shared same).trans started
  · refine (congrArg Attendance.shared same).trans ?_
    rw [started]
    rfl

theorem consumed_subscribeOnce (consumed : t.attendance.Consumed) (id : Nat) :
    (t.subscribeOnce id).attendance.Consumed := by
  have opened (begun : t.shared ≠ none) : (t.subscribeOnce id).shared ≠ none := by
    obtain ⟨shared, started⟩ := Option.ne_none_iff_exists'.mp begun
    rw [shared_subscribeOnce started id]
    exact nofun
  have starts (some : t.attendance.subscribed ≠ []) (none : (t.subscribeOnce id).awaiting = []) :
      (t.subscribeOnce id).shared ≠ Option.none := by
    by_cases awaited : t.awaiting = []
    · exact opened (consumed.started some awaited)
    · exact started_of_last awaited none
  rcases t.attendance_subscribeOnce id with same | same | ⟨-, -, same⟩
  · rw [same]
    exact consumed
  · rw [same]
    refine consumed.subscribe id fun some none => ?_
    have shared : (t.subscribeOnce id).shared = t.shared := congrArg Attendance.shared same
    rw [show t.attendance.shared = _ from shared.symm]
    exact starts some ((congrArg Attendance.awaiting same).trans none)
  · rw [same]
    exact consumed.subscribe id fun _ _ => nofun

variable {σ : Type} (backend : Backend σ)

theorem consumed_pollParticipant (consumed : t.attendance.Consumed) (id : Nat) (waker : Waker)
    (state : σ) : (t.pollParticipant backend id waker state).2.1.attendance.Consumed := by
  have first := consumed_subscribeOnce consumed id
  obtain ⟨shared, polled, kept⟩ := attendance_pollParticipant backend t id waker state
  rw [polled]
  exact ⟨first.distinct, first.unsubscribed, fun some none idle => first.started some none
    (kept idle)⟩

/-- What was subscribed stays so, and whoever is polled while it is there is subscribed. -/
theorem subscribed_pollParticipant (t : Transaction) (id : Nat) (waker : Waker) (state : σ)
    {other : Nat} (subscribed : t.attendance.subscribed[other]? = some true ∨
      t.Orderly ∧ t.isPresent id = true ∧ other = id) :
    (t.pollParticipant backend id waker state).2.1.attendance.subscribed[other]? =
      some true := by
  rcases subscribed with earlier | ⟨orderly, present, rfl⟩
  · obtain ⟨shared, polled | polled⟩ := exists_attendance_pollParticipant backend t id waker state
    · rw [polled]
      exact earlier
    · rw [polled, Attendance.subscribe, List.getElem?_modify, earlier]
      split <;> rfl
  · obtain ⟨shared, polled, -⟩ := attendance_pollParticipant backend t other waker state
    rw [polled]
    exact subscribed_subscribeOnce orderly present

/-! ## Joining -/

theorem Orderly.concat (orderly : t.Orderly) {member : Member} (new : member.Orderly)
    (members : after.members = t.members ++ [member]) : after.Orderly := by
  intro other among
  rw [members] at among
  rcases List.mem_append.mp among with earlier | last
  · exact orderly other earlier
  · rw [List.mem_singleton.mp last]
    exact new

/-- The member of a participant which has just joined is orderly. -/
theorem orderly_participate (orderly : t.Orderly) {statement : Except Error Statement}
    (joined : t.participate statement = .ok (id, after)) : after.Orderly := by
  have newcomer (statement : Except SharedError Statement) :
      (t.enroll statement (.participant {})).Orderly := by
    refine orderly.concat ⟨?_, ?_⟩ rfl
    · rintro ⟨⟩
    · rintro participant ⟨⟩ ⟨⟩
  have pending := (pending_of_add joined).1
  cases statement with
  | ok statement =>
      have same := (add_ok pending statement _).symm.trans joined
      obtain ⟨-, rfl⟩ := Prod.mk.inj (Except.ok.inj same)
      exact newcomer _
  | error error =>
      have same := (add_error pending error _).symm.trans joined
      obtain ⟨-, rfl⟩ := Prod.mk.inj (Except.ok.inj same)
      exact (composed_notify _ _ _).orderly (newcomer _)

theorem consumed_participate (consumed : t.attendance.Consumed)
    {statement : Except Error Statement} (joined : t.participate statement = .ok (id, after)) :
    after.attendance.Consumed := by
  rw [(t.keeps_add joined).attendance, attendance_enroll]
  exact consumed.enroll _

end Transaction

/-! ## Scenes of joined calls -/

namespace Turn

/-- Whether a participant is polled. -/
def isPoll : Turn → Bool
  | .poll .. => true
  | .drop _ => false

end Turn

namespace Scene

variable {σ : Type} {backend : Backend σ} {scene : Scene σ} {calls : List Call}

/-- Joined calls to which nobody but their participants attends. -/
structure Attended (calls : List Call) (scene : Scene σ) : Prop where
  joined : scene.Joined calls
  orderly : scene.transaction.Orderly
  consumed : scene.transaction.attendance.Consumed

theorem Attended.step (attended : scene.Attended calls) (turn : Turn) :
    (scene.step backend turn.action).Attended calls := by
  refine ⟨attended.joined.step turn, ?_, ?_⟩
  · cases turn with
    | drop id => exact Transaction.orderly_depart attended.orderly id
    | poll id waker =>
        simp only [Turn.action, Scene.step]
        split
        · exact (Transaction.left_pollParticipant backend.recording _ id waker _).orderly
            attended.orderly
        · exact attended.orderly
  · cases turn with
    | drop id =>
        rw [Turn.action, Scene.step, (scene.transaction.keeps_depart id).attendance]
        exact attended.consumed
    | poll id waker =>
        simp only [Turn.action, Scene.step]
        split
        · exact Transaction.consumed_pollParticipant backend.recording attended.consumed id waker _
        · exact attended.consumed

/-- Participants which join one after another are orderly, and nobody else subscribes their
statements. -/
theorem consumed_run_participate (backend : Backend σ) (scene : Scene σ) (calls : List Call)
    (orderly : scene.transaction.Orderly) (consumed : scene.transaction.attendance.Consumed) :
    let after := scene.run backend (calls.map fun call => .participate call.statement)
    after.transaction.Orderly ∧ after.transaction.attendance.Consumed := by
  induction calls generalizing scene with
  | nil => exact ⟨orderly, consumed⟩
  | cons call calls inductionHypothesis =>
      have first : (scene.step backend (.participate call.statement)).transaction.Orderly ∧
          (scene.step backend (.participate call.statement)).transaction.attendance.Consumed := by
        rw [Scene.step]
        cases joined : scene.transaction.participate call.statement with
        | error _ => exact ⟨orderly, consumed⟩
        | ok result =>
            exact ⟨Transaction.orderly_participate orderly joined,
              Transaction.consumed_participate consumed joined⟩
      exact inductionHypothesis _ first.1 first.2

theorem attended_sceneOf (backend : Backend σ) (threshold : Duration) (state : σ)
    {t : Transaction} (joining : t.Joining calls)
    (reached : (initial calls.length threshold state).run backend
      (calls.map fun call => .participate call.statement) = sceneOf t state) :
    (sceneOf t state).Attended calls := by
  have consumed := consumed_run_participate backend (initial calls.length threshold state) calls
    (fun _ among => nomatch among) ⟨List.nodup_nil, nofun, (absurd rfl ·)⟩
  rw [reached] at consumed
  exact ⟨joined_sceneOf backend threshold state joining reached, consumed.1, consumed.2⟩

/-! ## Who is subscribed -/

/-- Whoever was polled while it was there is subscribed. -/
theorem Attended.subscribed_poll (backend : Backend σ) (attended : scene.Attended calls) {id : Nat}
    (present : scene.transaction.isPresent id = true) (waker : Waker) :
    (scene.step backend (.pollParticipant id waker)).transaction.attendance.subscribed[id]? =
      some true := by
  rw [Scene.step, if_pos present]
  exact Transaction.subscribed_pollParticipant backend.recording _ id waker _
    (.inr ⟨attended.orderly, present, rfl⟩)

theorem subscribed_turn (backend : Backend σ) (turn : Turn) {id : Nat}
    (subscribed : scene.transaction.attendance.subscribed[id]? = some true) :
    (scene.step backend turn.action).transaction.attendance.subscribed[id]? = some true := by
  cases turn with
  | drop other =>
      rw [Turn.action, step, (scene.transaction.keeps_depart other).attendance]
      exact subscribed
  | poll other waker =>
      simp only [Turn.action, step]
      split
      · exact Transaction.subscribed_pollParticipant backend.recording _ other waker _
          (.inl subscribed)
      · exact subscribed

theorem subscribed_turns (backend : Backend σ) (turns : List Turn) {id : Nat}
    (subscribed : scene.transaction.attendance.subscribed[id]? = some true) :
    (scene.run backend (turns.map Turn.action)).transaction.attendance.subscribed[id]? =
      some true := by
  induction turns generalizing scene with
  | nil => exact subscribed
  | cons turn turns inductionHypothesis =>
      exact inductionHypothesis (subscribed_turn backend turn subscribed)

/-- A participant which nobody drops is there until it has resolved, which it does not before it
was polled. -/
def Undropped (id : Nat) (scene : Scene σ) : Prop :=
  scene.transaction.isPresent id = true ∨
    scene.transaction.attendance.subscribed[id]? = some true ∧
      ∃ outcome, (id, outcome) ∈ scene.resolved

theorem Attended.undropped (attended : scene.Attended calls) {id : Nat}
    (undropped : scene.Undropped id) (other : Nat) (waker : Waker) :
    (scene.step backend (.pollParticipant other waker)).Undropped id := by
  rcases undropped with present | ⟨subscribed, outcome, resolved⟩
  · by_cases same : id = other
    · subst same
      have subscribed := attended.subscribed_poll backend present waker
      rw [Undropped]
      rw [Scene.step, if_pos present] at subscribed ⊢
      have left := Transaction.left_pollParticipant backend.recording scene.transaction id waker
        scene.backend
      cases polled : (scene.transaction.pollParticipant backend.recording id waker
        scene.backend).1 with
      | none => exact .inl ((left.unresolved polled).trans present)
      | some outcome =>
          refine .inr ⟨subscribed, outcome, ?_⟩
          rw [mem_resolved_pollPresent]
          exact .inr ⟨rfl, polled⟩
    · left
      simp only [Scene.step]
      split
      · exact ((Transaction.left_pollParticipant backend.recording _ other waker _).others id
          same).trans present
      · exact present
  · refine .inr ⟨subscribed_turn backend (.poll other waker) subscribed, outcome, ?_⟩
    simp only [Scene.step]
    split
    · rw [mem_resolved_pollPresent]
      exact .inl resolved
    · exact resolved

/-- If nobody is dropped, whoever is polled at some time is subscribed. -/
theorem Attended.undropped_run (backend : Backend σ) (attended : scene.Attended calls) {id : Nat}
    (undropped : scene.Undropped id) (turns : List Turn)
    (polls : ∀ turn ∈ turns, turn.isPoll = true) :
    let after := scene.run backend (turns.map Turn.action)
    after.Undropped id ∧ ((∃ waker, Turn.poll id waker ∈ turns) →
      after.transaction.attendance.subscribed[id]? = some true) := by
  induction turns generalizing scene with
  | nil => exact ⟨undropped, fun ⟨_, polled⟩ => nomatch polled⟩
  | cons turn turns inductionHypothesis =>
      cases turn with
      | drop other => cases polls (.drop other) List.mem_cons_self
      | poll other waker =>
          obtain ⟨still, later⟩ := inductionHypothesis (attended.step (.poll other waker))
            (attended.undropped undropped other waker)
            fun turn among => polls turn (List.mem_cons_of_mem _ among)
          refine ⟨still, ?_⟩
          rintro ⟨first, polled⟩
          rcases List.mem_cons.mp polled with same | among
          · cases same
            refine subscribed_turns backend turns ?_
            rcases undropped with present | ⟨subscribed, -⟩
            · exact attended.subscribed_poll backend present waker
            · exact subscribed_turn backend (.poll id waker) subscribed
          · exact later ⟨first, among⟩

end Scene

end NamedSql
