import NamedSql.Proofs.Scene.Basic
import Mathlib.Data.List.Nodup

/-!
# The registry in all scenes

Whoever is not subscribed is awaited, and the shared execution is only ever refused
because the number of statements is wrong.  Both are facts about attendance alone, so
that executions matter only for the result of the shared one.
-/

namespace NamedSql

namespace Attendance

/-- What the shared execution of a number of statements can be between two actions. -/
inductive Shares (expected count : Nat) : Option SharedExecution → Prop
  | none : Shares expected count none
  | running (run : Run) : Shares expected count (some (.active (.running run)))
  | completed : Shares expected count (some (.finished (.ok ())))
  | refused {error : SharedError} {actual : Nat}
      (reason : error.error = .modifiedAfterCreation expected actual) (wrong : actual ≠ expected)
      (counted : actual ≤ count) : Shares expected count (some (.finished (.error error)))

/-- What holds of an attendance between two actions. -/
structure Sound (expected : Nat) (attendance : Attendance) : Prop where
  created : attendance.expected = expected
  awaited : ∀ id, attendance.subscribed[id]? = some false → id ∈ attendance.awaiting
  shared : Shares expected attendance.subscribed.length attendance.shared

/-- What holds of an attendance when the shared execution is about to be polled: it may
just have been started, because no statement is awaited any more. -/
structure Started (expected : Nat) (attendance : Attendance) : Prop where
  created : attendance.expected = expected
  awaited : ∀ id, attendance.subscribed[id]? = some false → id ∈ attendance.awaiting
  shared : Shares expected attendance.subscribed.length attendance.shared ∨
    attendance.shared = some (.active .unstarted) ∧ attendance.awaiting = []

variable {expected : Nat} {attendance : Attendance}

theorem Sound.started (sound : attendance.Sound expected) : attendance.Started expected :=
  ⟨sound.created, sound.awaited, .inl sound.shared⟩

theorem Shares.mono {count more : Nat} {shared : Option SharedExecution}
    (shares : Shares expected count shared) (le : count ≤ more) : Shares expected more shared := by
  cases shares with
  | none => exact .none
  | running run => exact .running run
  | completed => exact .completed
  | refused reason wrong counted => exact .refused reason wrong (counted.trans le)

theorem Sound.enroll (sound : attendance.Sound expected)
    (statement : Except SharedError Statement) :
    (attendance.enroll statement).Sound expected := by
  refine ⟨sound.created, ?_, ?_⟩
  · intro id unsubscribed
    rw [Attendance.enroll, List.mem_append, List.mem_singleton]
    by_cases earlier : id < attendance.subscribed.length
    · rw [Attendance.enroll, List.getElem?_append_left earlier] at unsubscribed
      exact .inl (sound.awaited id unsubscribed)
    · have inside := (List.getElem?_eq_some_iff.mp unsubscribed).1
      rw [Attendance.enroll, List.length_append, List.length_singleton] at inside
      exact .inr (by omega)
  · apply sound.shared.mono
    rw [Attendance.enroll, List.length_append]
    exact Nat.le_add_right _ _

theorem Sound.subscribe (sound : attendance.Sound expected) (id : Nat) :
    (attendance.subscribe id).Sound expected := by
  refine ⟨sound.created, ?_, ?_⟩
  · intro other unsubscribed
    rw [Attendance.subscribe, List.getElem?_modify] at unsubscribed
    split at unsubscribed
    · cases found : attendance.subscribed[other]? with
      | none => rw [found] at unsubscribed; cases unsubscribed
      | some _ => rw [found] at unsubscribed; cases unsubscribed
    next different =>
      have awaited := sound.awaited other (by simpa using unsubscribed)
      exact (List.mem_erase_of_ne (Ne.symm different)).mpr awaited
  · rw [Attendance.subscribe, List.length_modify]
    exact sound.shared

theorem Sound.subscribeAll (sound : attendance.Sound expected) :
    attendance.subscribeAll.Sound expected := by
  refine ⟨sound.created, ?_, ?_⟩
  · intro id unsubscribed
    rw [Attendance.subscribeAll, List.getElem?_map] at unsubscribed
    cases found : attendance.subscribed[id]? with
    | none => rw [found] at unsubscribed; cases unsubscribed
    | some _ => rw [found] at unsubscribed; cases unsubscribed
  · rw [Attendance.subscribeAll, List.length_map]
    exact sound.shared

/-- Without awaited statements, all are subscribed. -/
theorem Sound.subscribed_of_awaiting (sound : attendance.Sound expected)
    (none : attendance.awaiting = []) : ∀ subscribed ∈ attendance.subscribed, subscribed = true := by
  intro subscribed member
  obtain ⟨id, found⟩ := List.getElem?_of_mem member
  cases subscribed with
  | true => rfl
  | false => exact absurd (none ▸ sound.awaited id found) List.not_mem_nil

/-! ## The list of awaited statements -/

/-- Awaited statements are listed once each, and are not subscribed. -/
structure Listed (attendance : Attendance) : Prop where
  distinct : attendance.awaiting.Nodup
  unsubscribed : ∀ id ∈ attendance.awaiting, attendance.subscribed[id]? = some false

theorem Listed.enroll (listed : attendance.Listed) (statement : Except SharedError Statement) :
    (attendance.enroll statement).Listed := by
  have fresh : attendance.subscribed.length ∉ attendance.awaiting := by
    intro awaited
    have missing := listed.unsubscribed _ awaited
    rw [List.getElem?_eq_none le_rfl] at missing
    cases missing
  constructor
  · apply List.nodup_append.mpr
    refine ⟨listed.distinct, List.pairwise_singleton _ _, ?_⟩
    rintro id awaited _ last rfl
    exact fresh (List.mem_singleton.mp last ▸ awaited)
  · intro id awaited
    rcases List.mem_append.mp awaited with earlier | last
    · have known := listed.unsubscribed id earlier
      have inside := (List.getElem?_eq_some_iff.mp known).1
      exact (List.getElem?_append_left inside).trans known
    · rw [List.mem_singleton.mp last]
      exact List.getElem?_concat_length

theorem Listed.subscribe (listed : attendance.Listed) (id : Nat) :
    (attendance.subscribe id).Listed := by
  refine ⟨listed.distinct.erase id, ?_⟩
  intro other awaited
  obtain ⟨different, earlier⟩ := (listed.distinct.mem_erase_iff).mp awaited
  exact (List.getElem?_modify_ne _ _ (Ne.symm different)).trans
    (listed.unsubscribed other earlier)

theorem Listed.subscribeAll (attendance : Attendance) : attendance.subscribeAll.Listed :=
  ⟨List.nodup_nil, fun _ none => nomatch none⟩

end Attendance

open Attendance (Shares)

namespace Transaction

variable {t : Transaction} {expected : Nat} {σ : Type} (backend : Backend σ)

theorem started_subscribeOnce (sound : t.attendance.Sound expected) (id : Nat) :
    (t.subscribeOnce id).attendance.Started expected := by
  have subscribed := sound.subscribe id
  rcases t.attendance_subscribeOnce id with same | same | ⟨-, last, same⟩
  · exact same ▸ sound.started
  · exact same ▸ subscribed.started
  · rw [same]
    refine ⟨subscribed.created, subscribed.awaited, ?_⟩
    cases shared : t.shared with
    | none => exact .inr ⟨rfl, last⟩
    | some execution =>
        have shares : Shares expected _ t.shared := subscribed.shared
        rw [shared] at shares
        exact .inl shares

/-- Polling the shared execution leads to a result which it can have. -/
theorem sound_pollShared (started : t.attendance.Started expected) {shared : SharedExecution}
    (here : t.shared = some shared) (state : σ) :
    (t.pollShared backend shared state).2.1.attendance.Sound expected := by
  have ready : Shares expected t.attendance.subscribed.length (some shared) ∨
      some shared = some (.active .unstarted) ∧ t.awaiting = [] := here ▸ started.shared
  have length : t.attendance.subscribed.length = t.members.length := List.length_map _
  cases shared with
  | finished result =>
      have shares : Shares expected t.attendance.subscribed.length t.shared := by
        rw [here]
        exact ready.resolve_right nofun
      exact ⟨started.created, started.awaited, shares⟩
  | active execution =>
      have kept := (t.keeps_execute backend execution state).attendance
      have refused (error : Error) := @refused_of_execute t σ backend execution state error
      rcases polled : t.execute backend execution state with ⟨progress, after, later⟩
      obtain ⟨result, shared, errors, finished, outcome⟩ := t.pollShared_active backend polled
      rw [polled] at kept refused
      have attendance : (t.pollShared backend (.active execution) state).2.1.attendance =
          { t.attendance with shared := some shared } := by
        rw [finished, ← kept]
        rfl
      rw [attendance]
      refine ⟨started.created, started.awaited, ?_⟩
      cases outcome with
      | suspended run => exact .running run
      | completed => exact .completed
      | refused error =>
          obtain ⟨rfl, reason⟩ := refused _ rfl
          have subscribed : t.awaiting = [] := by
            rcases ready with shares | ⟨-, none⟩
            · cases shares
            · exact none
          rcases reason with ⟨missing, -⟩ | ⟨-, miscounted, reason⟩
          · exact absurd subscribed missing
          · have created : t.expected = expected := started.created
            rw [created] at reason miscounted
            exact .refused reason miscounted length.ge

theorem sound_pollParticipant (sound : t.attendance.Sound expected) (id : Nat) (waker : Waker)
    (state : σ) :
    (t.pollParticipant backend id waker state).2.1.attendance.Sound expected := by
  have started := started_subscribeOnce sound id
  have visited := t.visited backend id waker state
  generalize (t.pollParticipant backend id waker state).2 = result at visited ⊢
  cases visited with
  | early idle tends =>
      rw [tends.keeps.attendance]
      refine ⟨started.created, started.awaited, started.shared.resolve_right ?_⟩
      rintro ⟨unstarted, -⟩
      exact nomatch idle.symm.trans unstarted
  | shared here polled tends =>
      have sound := sound_pollShared backend started here state
      rw [polled] at sound
      rw [tends.keeps.attendance]
      exact sound

end Transaction

namespace Scene

variable {σ : Type} {backend : Backend σ} {scene : Scene σ} {expected : Nat}

theorem sound_register (sound : scene.transaction.attendance.Sound expected)
    (statement : Except Error Statement) (sink : Sink) :
    (scene.register (scene.transaction.add statement sink)).transaction.attendance.Sound expected := by
  cases added : scene.transaction.add statement sink with
  | error _ => exact sound
  | ok result =>
      rcases result with ⟨id, after⟩
      have kept := (scene.transaction.keeps_add added).attendance
      rw [Transaction.attendance_enroll] at kept
      rw [register, kept]
      exact sound.enroll _

theorem sound_step (sound : scene.transaction.attendance.Sound expected) (action : Action) :
    (scene.step backend action).transaction.attendance.Sound expected := by
  cases action with
  | add statement name refuses => exact sound_register sound statement _
  | participate statement => exact sound_register sound statement _
  | markSubscribed id =>
      rw [step, Transaction.attendance_markSubscribed]
      exact sound.subscribe id
  | markAllSubscribed =>
      rw [step, Transaction.attendance_markAllSubscribed]
      exact sound.subscribeAll
  | onTransactionFailed name => exact sound
  | request => exact sound
  | poll index =>
      simp only [step]
      split
      next execution _ =>
        rw [pollRequest, (scene.transaction.keeps_execute _ execution _).attendance]
        exact sound
      next => exact sound
  | drop index => exact sound
  | pollParticipant id waker =>
      simp only [step]
      split
      · exact Transaction.sound_pollParticipant backend.recording sound id waker _
      · exact sound
  | dropParticipant id =>
      rw [step, (scene.transaction.keeps_depart id).attendance]
      exact sound

end Scene

end NamedSql
