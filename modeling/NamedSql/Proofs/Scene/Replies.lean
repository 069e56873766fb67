import NamedSql.Proofs.Scene.Basic

/-!
# Replies and rejections

An addition to a transaction which has begun is refused, and so is a request to execute one whose
statements are missing or not subscribed.  Both of them leave the transaction as it is.
-/

namespace NamedSql

/-! ## Replies -/

/-- What someone gets from an action. -/
inductive Reply where
  /-- The number of a statement which was added. -/
  | added (result : Except Error Nat)
  /-- Whether the last statement which was awaited is subscribed. -/
  | subscribed (last : Bool)
  /-- The result of a request, if it has finished. -/
  | executed (result : Option (Except Error Unit))
  /-- The outcome of a participant, if it resolves. -/
  | resolved (outcome : Option Outcome)
  | nothing

/-- Whether a call is rejected with an error. -/
def Reply.isRejection : Reply → Bool
  | .added (.error _) | .executed (some (.error _)) => true
  | _ => false

namespace Scene

variable {σ : Type}

/-- The result of a request, if it has finished. -/
def result? (scene : Scene σ) (index : Nat) : Option (Except Error Unit) :=
  match scene.requests[index]? with
  | some (.finished result) => some result
  | _ => none

/-- The reply to an action. -/
def reply (backend : Backend σ) (scene : Scene σ) : Action → Reply
  | .add statement name refuses =>
    .added ((scene.transaction.add statement (.recorder name refuses)).map (·.1))
  | .participate statement => .added ((scene.transaction.participate statement).map (·.1))
  | .markSubscribed id => .subscribed (scene.transaction.markSubscribed id).1
  | .poll index => .executed ((scene.step backend (.poll index)).result? index)
  | .pollParticipant id waker =>
    .resolved <|
      if scene.transaction.isPresent id then
        (scene.transaction.pollParticipant backend.recording id waker scene.backend).1
      else none
  | _ => .nothing

/-- The replies to actions, one after another. -/
def replies (backend : Backend σ) (scene : Scene σ) : List Action → List Reply
  | [] => []
  | action :: actions =>
    scene.reply backend action :: (scene.step backend action).replies backend actions

end Scene

namespace Action

/-- The request which an action is about. -/
def request? : Action → Option Nat
  | .poll index | .drop index => some index
  | _ => none

/-- The request which an action makes, which is not omitted. -/
def requests : Action → List Bool
  | .request => [false]
  | _ => []

end Action

/-! ## What is rejected -/

namespace Scene

variable {σ : Type} {backend : Backend σ} {scene : Scene σ} {action : Action} {index : Nat}
  {error : Error}

/-- An addition is refused because the transaction is not pending any more, and changes nothing. -/
theorem step_of_refused (refused : scene.reply backend action = .added (.error error)) :
    error = .notPending scene.transaction.state ∧ scene.step backend action = scene := by
  have rejected {statement : Except Error Statement} {sink : Sink}
      (refused : (scene.transaction.add statement sink).map (·.1) = .error error) :
      error = .notPending scene.transaction.state ∧
        scene.register (scene.transaction.add statement sink) = scene := by
    by_cases pending : scene.transaction.state = .pending
    · obtain ⟨after, added, -⟩ := Transaction.add_of_pending pending statement sink
      rw [added] at refused
      cases refused
    · rw [Transaction.add_of_not_pending pending] at refused ⊢
      cases refused
      exact ⟨rfl, rfl⟩
  cases action with
  | add statement name refuses => exact rejected (Reply.added.inj refused)
  | participate statement => exact rejected (Reply.added.inj refused)
  | _ => cases refused

theorem reply_add_of_begun (begun : scene.transaction.state ≠ .pending)
    (statement : Except Error Statement) (name : String) (refuses : Bool) :
    scene.reply backend (.add statement name refuses) =
      .added (.error (.notPending scene.transaction.state)) := by
  rw [reply, Transaction.add_of_not_pending begun]
  rfl

theorem result?_eq_some {result : Except Error Unit} :
    scene.result? index = some result ↔ scene.requests[index]? = some (.finished result) := by
  unfold result?
  split
  next known => rw [known]; simp
  next others =>
    constructor
    · exact nofun
    · exact fun known => absurd known (others result)

/-- A request is refused because statements are missing or not subscribed, and then all which
happens is that the error is logged. -/
theorem step_of_rejected {execution : Execution}
    (active : scene.requests[index]? = some (.active execution))
    (rejected : (scene.step backend (.poll index)).result? index = some (.error error)) :
    execution = .unstarted ∧
      (error = .notAllSubscribed scene.transaction.awaiting.length ∨
        error = .modifiedAfterCreation scene.transaction.expected
          scene.transaction.members.length) ∧
      scene.step backend (.poll index) =
        { scene with
          transaction := scene.transaction.log (.returned error)
          requests := scene.requests.set index (.finished (.error error)) } := by
  have inside := (List.getElem?_eq_some_iff.mp active).1
  have finished := result?_eq_some.mp rejected
  rw [step_poll backend scene active] at finished ⊢
  simp only [pollRequest] at finished ⊢
  rw [List.getElem?_set_self inside] at finished
  have refused : (scene.transaction.execute backend.recording execution scene.backend).1 =
      .finished (.error error) := by
    generalize scene.transaction.execute backend.recording execution scene.backend = result at *
    rcases result with ⟨run | result, _, _⟩
    · cases finished
    · cases finished
      rfl
  obtain ⟨rfl, reason⟩ := Transaction.refused_of_execute refused
  refine ⟨rfl, ?_⟩
  have admission := scene.transaction.admission
  simp only [Transaction.execute] at refused ⊢
  generalize scene.transaction.begin = result at admission refused ⊢
  rcases result with ⟨run | result, after⟩
  · exact absurd refused (Transaction.carryOn_ne_error backend.recording run scene.backend error)
  · cases refused
    cases admission with
    | unsubscribed _ => exact ⟨.inl rfl, rfl⟩
    | miscounted _ _ => exact ⟨.inr rfl, rfl⟩

/-! ## What becomes of requests -/

theorem length_requests_step (backend : Backend σ) (scene : Scene σ) (action : Action) :
    (scene.step backend action).requests.length =
      scene.requests.length + action.requests.length := by
  cases action with
  | add => exact congrArg List.length (requests_register _ _)
  | participate => exact congrArg List.length (requests_register _ _)
  | request => exact List.length_append
  | poll index =>
      simp only [step]
      split
      · exact List.length_set
      · rfl
  | drop index => exact List.length_modify _ _ _
  | pollParticipant id waker =>
      simp only [step]
      split <;> rfl
  | _ => rfl

/-- Actions about other requests leave a request alone. -/
theorem requests_step_of_other (inside : index < scene.requests.length)
    (other : action.request? ≠ some index) :
    (scene.step backend action).requests[index]? = scene.requests[index]? := by
  cases action with
  | add => rw [step, requests_register]
  | participate => rw [step, requests_register]
  | request => exact List.getElem?_append_left inside
  | poll polled =>
      have different : polled ≠ index := fun same => other (congrArg some same)
      simp only [step]
      split
      · exact List.getElem?_set_ne different
      · rfl
  | drop dropped =>
      have different : dropped ≠ index := fun same => other (congrArg some same)
      exact List.getElem?_modify_ne _ _ different
  | pollParticipant id waker =>
      simp only [step]
      split <;> rfl
  | _ => rfl

/-- Nothing can be done with a request which has finished. -/
theorem step_of_result? {result : Except Error Unit} (about : action.request? = some index)
    (finished : scene.result? index = some result) : scene.step backend action = scene := by
  rw [result?_eq_some] at finished
  cases action with
  | poll polled =>
      cases about
      simp only [step, finished]
  | drop dropped =>
      cases about
      have unchanged : scene.requests.modify index Request.drop = scene.requests := by
        apply List.ext_getElem?
        intro other
        by_cases same : index = other
        · subst same
          rw [List.getElem?_modify_eq, finished]
          rfl
        · exact List.getElem?_modify_ne _ _ same
      rw [step, unchanged]
  | _ => cases about

theorem result?_step {result : Except Error Unit} (finished : scene.result? index = some result)
    (action : Action) : (scene.step backend action).result? index = some result := by
  by_cases about : action.request? = some index
  · rw [step_of_result? about finished, finished]
  · rw [result?_eq_some] at finished ⊢
    rw [requests_step_of_other (List.getElem?_eq_some_iff.mp finished).1 about, finished]

theorem result?_run {result : Except Error Unit} (finished : scene.result? index = some result)
    (actions : List Action) : (scene.run backend actions).result? index = some result := by
  induction actions generalizing scene with
  | nil => exact finished
  | cons action actions inductionHypothesis =>
      exact inductionHypothesis (result?_step finished action)

/-- Whether a request was rejected. -/
def rejected (scene : Scene σ) (index : Nat) : Bool :=
  (scene.result? index).any (!·.isOk)

theorem rejected_iff :
    scene.rejected index = true ↔ ∃ error, scene.result? index = some (.error error) := by
  rw [rejected]
  rcases scene.result? index with _ | error | _
  · simp
  · simp [Except.isOk, Except.toBool]
  · simp [Except.isOk, Except.toBool]

/-- What is replied with an error is an addition which is refused, or a request which is rejected
for good. -/
theorem rejection_cases (rejection : (scene.reply backend action).isRejection = true)
    (actions : List Action) :
    (∃ error, scene.reply backend action = .added (.error error)) ∨
      ∃ index, action.request? = some index ∧ index < scene.requests.length ∧
        ((scene.step backend action).run backend actions).rejected index = true := by
  cases action with
  | poll index =>
      right
      rcases finished : (scene.step backend (.poll index)).result? index with _ | error | _
      · simp [reply, finished, Reply.isRejection] at rejection
      · have inside := (List.getElem?_eq_some_iff.mp (result?_eq_some.mp finished)).1
        rw [length_requests_step] at inside
        exact ⟨index, rfl, inside, rejected_iff.mpr ⟨error, result?_run finished actions⟩⟩
      · simp [reply, finished, Reply.isRejection] at rejection
  | add statement name refuses =>
      left
      rcases added : (scene.transaction.add statement (.recorder name refuses)).map (·.1) with
        error | _
      · exact ⟨error, congrArg Reply.added added⟩
      · simp [reply, added, Reply.isRejection] at rejection
  | participate statement =>
      left
      rcases added : (scene.transaction.participate statement).map (·.1) with error | _
      · exact ⟨error, congrArg Reply.added added⟩
      · simp [reply, added, Reply.isRejection] at rejection
  | _ => cases rejection

/-! ## Requests which are bound to be rejected -/

/-- A request of which nothing but a rejection has come so far. -/
def Doomed (scene : Scene σ) (index : Nat) : Prop :=
  scene.requests[index]? = some (.active .unstarted) ∨
    ∃ error, scene.result? index = some (.error error)

/-- Whatever is done with a request which is bound to be rejected, either it was rejected already
or it is now. -/
theorem doomed_of_step (about : action.request? = some index)
    (doomed : (scene.step backend action).Doomed index) :
    scene.Doomed index ∧ (scene.step backend action = scene ∨ ∃ error,
      scene.step backend action =
        { scene with
          transaction := scene.transaction.log (.returned error)
          requests := scene.requests.set index (.finished (.error error)) }) := by
  cases finished : scene.result? index with
  | some result =>
      have same : scene.step backend action = scene := step_of_result? about finished
      exact ⟨same ▸ doomed, .inl same⟩
  | none =>
      cases action with
      | poll polled =>
          cases about
          by_cases active : ∃ execution, scene.requests[index]? = some (.active execution)
          · obtain ⟨execution, active⟩ := active
            rcases doomed with unstarted | ⟨error, rejected⟩
            · rw [step_poll backend scene active, pollRequest,
                List.getElem?_set_self (List.getElem?_eq_some_iff.mp active).1] at unstarted
              generalize scene.transaction.execute backend.recording execution scene.backend =
                result at unstarted
              rcases result with ⟨_ | _, _, _⟩ <;> cases unstarted
            · obtain ⟨rfl, -, refused⟩ := step_of_rejected active rejected
              exact ⟨.inl active, .inr ⟨error, refused⟩⟩
          · have unchanged : scene.step backend (.poll index) = scene := by
              simp only [step]
              split
              next execution known => exact absurd ⟨execution, known⟩ active
              next => rfl
            exact ⟨unchanged ▸ doomed, .inl unchanged⟩
      | drop dropped =>
          cases about
          -- Whatever is dropped before it has finished comes to nothing.
          have dropped : (scene.step backend (.drop index)).requests[index]? =
              scene.requests[index]?.map Request.drop := List.getElem?_modify_eq _ _ _
          rw [Doomed, result?, dropped] at doomed
          rw [result?] at finished
          rcases known : scene.requests[index]? with _ | _ | _ | _ <;>
            simp [known, Request.drop] at doomed finished
      | _ => cases about

theorem doomed_of_step_doomed (inside : index < scene.requests.length)
    (doomed : (scene.step backend action).Doomed index) : scene.Doomed index := by
  by_cases about : action.request? = some index
  · exact (doomed_of_step about doomed).1
  · rwa [Doomed, result?, requests_step_of_other inside about] at doomed

end Scene

end NamedSql
