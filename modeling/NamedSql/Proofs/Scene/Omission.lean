import NamedSql.Proofs.Scene.Replies
import NamedSql.Proofs.Transaction.Past
import Mathlib.Data.List.Basic

/-!
# Omitting rejected calls

Calls which are rejected leave no trace: if they are omitted from a run, then everyone else gets the
same replies, and the backend is polled in the same way.
-/

namespace NamedSql

/-! ## Omitting calls -/

/-- The requests which are left if some are omitted. -/
def Request.remaining : List Bool → List Request → List Request
  | true :: omitted, _ :: requests => remaining omitted requests
  | false :: omitted, request :: requests => request :: remaining omitted requests
  | [], requests => requests
  | _ :: _, [] => []

/-- The number of a request after the requests before it which are omitted are left out. -/
def Request.number : List Bool → Nat → Nat
  | true :: omitted, index + 1 => number omitted index
  | false :: omitted, index + 1 => number omitted index + 1
  | [], index => index
  | _ :: _, 0 => 0

/-- The same action if some requests are omitted. -/
def Action.renumber (omitted : List Bool) : Action → Action
  | .poll index => .poll (Request.number omitted index)
  | .drop index => .drop (Request.number omitted index)
  | action => action

namespace Scene

variable {σ : Type}

/-- Which actions are left, with the replies to them, if calls are omitted which are rejected:
additions which are refused, and requests which finish with an error, with all which is done
with these.  For each request so far it is known whether it is omitted. -/
inductive Omits (backend : Backend σ) :
    List Bool → Scene σ → List Action → List (Action × Reply) → Prop
  | done {omitted : List Bool} {scene : Scene σ}
      (rejected : ∀ index, omitted[index]? = some true →
        ∃ error, scene.result? index = some (.error error)) : Omits backend omitted scene [] []
  | addition {omitted : List Bool} {scene : Scene σ} {action : Action} {actions : List Action}
      {kept : List (Action × Reply)} {error : Error}
      (refused : scene.reply backend action = .added (.error error))
      (later : Omits backend omitted (scene.step backend action) actions kept) :
      Omits backend omitted scene (action :: actions) kept
  | request {omitted : List Bool} {scene : Scene σ} {actions : List Action}
      {kept : List (Action × Reply)}
      (later : Omits backend (omitted ++ [true]) (scene.step backend .request) actions kept) :
      Omits backend omitted scene (.request :: actions) kept
  | requested {omitted : List Bool} {scene : Scene σ} {action : Action} {actions : List Action}
      {kept : List (Action × Reply)} {index : Nat} (about : action.request? = some index)
      (among : omitted[index]? = some true)
      (later : Omits backend omitted (scene.step backend action) actions kept) :
      Omits backend omitted scene (action :: actions) kept
  | kept {omitted : List Bool} {scene : Scene σ} {action : Action} {actions : List Action}
      {kept : List (Action × Reply)}
      (other : ∀ index, action.request? = some index → omitted[index]? ≠ some true)
      (later : Omits backend (omitted ++ action.requests) (scene.step backend action) actions
        kept) :
      Omits backend omitted scene (action :: actions)
        ((action.renumber omitted, scene.reply backend action) :: kept)

end Scene

/-! ## Numbers of requests -/

namespace Request

variable {omitted : List Bool} {requests : List Request} {index : Nat}

theorem getElem?_remaining (kept : omitted[index]? ≠ some true) (requests : List Request) :
    (remaining omitted requests)[number omitted index]? = requests[index]? := by
  induction omitted generalizing index requests with
  | nil => rw [number, remaining]
  | cons flag omitted inductionHypothesis =>
      cases index with
      | zero =>
          cases flag with
          | true => exact absurd rfl kept
          | false => cases requests <;> rfl
      | succ index =>
          have later := @inductionHypothesis index kept
          cases requests with
          | nil => simp [remaining]
          | cons request requests => cases flag <;> simp [remaining, number, later]

theorem remaining_modify (kept : omitted[index]? ≠ some true) (change : Request → Request)
    (requests : List Request) :
    remaining omitted (requests.modify index change) =
      (remaining omitted requests).modify (number omitted index) change := by
  induction omitted generalizing index requests with
  | nil => simp only [remaining, number]
  | cons flag omitted inductionHypothesis =>
      cases requests with
      | nil => cases index <;> simp [remaining]
      | cons request requests =>
          cases index with
          | zero =>
              cases flag with
              | true => exact absurd rfl kept
              | false => rfl
          | succ index =>
              have later := inductionHypothesis kept requests
              cases flag <;> simp [remaining, number, later]

theorem remaining_modify_of_omitted (among : omitted[index]? = some true)
    (change : Request → Request) (requests : List Request) :
    remaining omitted (requests.modify index change) = remaining omitted requests := by
  induction omitted generalizing index requests with
  | nil => cases among
  | cons flag omitted inductionHypothesis =>
      cases requests with
      | nil => cases index <;> rfl
      | cons request requests =>
          cases index with
          | zero =>
              cases among
              rfl
          | succ index =>
              have later := inductionHypothesis among requests
              cases flag <;> simp [remaining, later]

theorem remaining_append (length : omitted.length = requests.length) (flag : Bool)
    (request : Request) :
    remaining (omitted ++ [flag]) (requests ++ [request]) =
      remaining omitted requests ++ if flag then [] else [request] := by
  induction omitted generalizing requests with
  | nil =>
      obtain rfl : requests = [] := List.length_eq_zero_iff.mp length.symm
      cases flag <;> rfl
  | cons first omitted inductionHypothesis =>
      cases requests with
      | nil => cases length
      | cons _ requests =>
          have later := @inductionHypothesis requests (Nat.succ.inj length)
          cases first <;> simp [remaining, later]

end Request

namespace Scene

variable {σ : Type} {backend : Backend σ} {scene other : Scene σ} {omitted : List Bool}
  {action : Action} {actions : List Action} {kept : List (Action × Reply)} {index : Nat}

/-! ## Scenes without rejected calls -/

/-- A request which is omitted has not come to anything but a rejection. -/
theorem Omits.doomed (omits : Omits backend omitted scene actions kept)
    (length : omitted.length = scene.requests.length) :
    ∀ index, omitted[index]? = some true → scene.Doomed index := by
  induction omits with
  | done rejected =>
      intro index among
      obtain ⟨error, finished⟩ := rejected index among
      exact .inr ⟨error, finished⟩
  | addition refused _ inductionHypothesis =>
      obtain ⟨-, same⟩ := step_of_refused refused
      rw [same] at inductionHypothesis
      exact inductionHypothesis length
  | request _ inductionHypothesis =>
      intro index among
      have inside := (List.getElem?_eq_some_iff.mp among).1
      exact doomed_of_step_doomed (length ▸ inside) (inductionHypothesis (by simp [step, length])
        index ((List.getElem?_append_left inside).trans among))
  | @requested _ scene action _ _ _ about _ _ inductionHypothesis =>
      intro index among
      have inside := (List.getElem?_eq_some_iff.mp among).1
      have made : action.requests = [] := by cases action <;> first | rfl | cases about
      exact doomed_of_step_doomed (length ▸ inside) (inductionHypothesis
        (by rw [length_requests_step, made, length]; rfl) index among)
  | @kept _ scene action _ _ _ _ inductionHypothesis =>
      intro index among
      have inside := (List.getElem?_eq_some_iff.mp among).1
      exact doomed_of_step_doomed (length ▸ inside) (inductionHypothesis
        (by rw [length_requests_step, List.length_append, length]) index
        ((List.getElem?_append_left inside).trans among))

/-- A scene which differs from another one by the omission of requests. -/
structure Follows (omitted : List Bool) (scene other : Scene σ) : Prop where
  length : omitted.length = scene.requests.length
  requests : other.requests = Request.remaining omitted scene.requests
  backend : other.backend = scene.backend
  resolved : other.resolved = scene.resolved
  transaction : scene.transaction.Alike other.transaction

namespace Follows

theorem getElem?_requests (follows : Follows omitted scene other)
    (kept : omitted[index]? ≠ some true) :
    other.requests[Request.number omitted index]? = scene.requests[index]? := by
  rw [follows.requests]
  exact Request.getElem?_remaining kept scene.requests

/-- Whether an addition is refused, and what it does otherwise, does not depend on requests. -/
theorem register (follows : Follows omitted scene other) (statement : Except Error Statement)
    (sink : Sink) :
    Follows omitted (scene.register (scene.transaction.add statement sink))
        (other.register (other.transaction.add statement sink)) ∧
      (other.transaction.add statement sink).map (·.1) =
        (scene.transaction.add statement sink).map (·.1) := by
  obtain ⟨core, past, otherPast, first, second, same⟩ := follows.transaction
  rw [first, second, Transaction.add_withPast, Transaction.add_withPast]
  cases core.add statement sink with
  | error _ => exact ⟨follows, rfl⟩
  | ok added =>
      exact ⟨⟨follows.length, follows.requests, follows.backend, follows.resolved,
        added.2, past, otherPast, rfl, rfl, same⟩, rfl⟩

/-- A request comes to the same whichever others are omitted. -/
theorem pollRequest (follows : Follows omitted scene other)
    (kept : omitted[index]? ≠ some true) (backend : Backend σ) (execution : Execution) :
    Follows omitted (scene.pollRequest backend index execution)
      (other.pollRequest backend (Request.number omitted index) execution) := by
  obtain ⟨core, past, otherPast, first, second, same⟩ := follows.transaction
  simp only [Scene.pollRequest, first, second, Transaction.execute_withPast, follows.backend]
  refine ⟨?_, ?_, rfl, follows.resolved, _, past, otherPast, rfl, rfl, same⟩
  · rw [List.length_set]
    exact follows.length
  · rw [follows.requests, List.set_eq_modify, List.set_eq_modify, Request.remaining_modify kept]

theorem pollPresent (follows : Follows omitted scene other) (backend : Backend σ) (id : Nat)
    (waker : Waker) :
    Follows omitted (scene.pollPresent backend id waker) (other.pollPresent backend id waker) ∧
      (other.transaction.pollParticipant backend.recording id waker other.backend).1 =
        (scene.transaction.pollParticipant backend.recording id waker scene.backend).1 := by
  obtain ⟨core, past, otherPast, first, second, same⟩ := follows.transaction
  simp only [Scene.pollPresent, first, second, Transaction.pollParticipant_withPast,
    follows.backend, follows.resolved]
  exact ⟨⟨follows.length, follows.requests, rfl, rfl, _, past, otherPast, rfl, rfl, same⟩,
    trivial⟩

/-- A change of the transaction which does not depend on its past. -/
theorem changed (follows : Follows omitted scene other) (change : Transaction → Transaction)
    (commutes : ∀ past t, change (Transaction.withPast past t) = (change t).withPast past) :
    Follows omitted { scene with transaction := change scene.transaction }
      { other with transaction := change other.transaction } := by
  obtain ⟨core, past, otherPast, first, second, same⟩ := follows.transaction
  refine ⟨follows.length, follows.requests, follows.backend, follows.resolved, change core, past,
    otherPast, ?_, ?_, same⟩
  · rw [first, commutes]
  · rw [second, commutes]

/-- An action which is not about a request which is omitted has the same effect and the same
reply. -/
theorem step (follows : Follows omitted scene other)
    (kept : ∀ index, action.request? = some index → omitted[index]? ≠ some true) :
    Follows (omitted ++ action.requests) (scene.step backend action)
        (other.step backend (action.renumber omitted)) ∧
      other.reply backend (action.renumber omitted) = scene.reply backend action := by
  cases action with
  | add statement name refuses =>
      obtain ⟨registered, replies⟩ := follows.register statement (.recorder name refuses)
      exact ⟨(List.append_nil omitted).symm ▸ registered, congrArg Reply.added replies⟩
  | participate statement =>
      obtain ⟨registered, replies⟩ := follows.register statement (.participant {})
      exact ⟨(List.append_nil omitted).symm ▸ registered, congrArg Reply.added replies⟩
  | markSubscribed id =>
      have marked := follows.changed (fun t => (t.markSubscribed id).2) fun _ _ => rfl
      have replies : (other.transaction.markSubscribed id).1 =
          (scene.transaction.markSubscribed id).1 := by
        obtain ⟨core, past, otherPast, first, second, -⟩ := follows.transaction
        rw [first, second]
        rfl
      exact ⟨(List.append_nil omitted).symm ▸ marked, congrArg Reply.subscribed replies⟩
  | markAllSubscribed =>
      have marked := follows.changed (·.markAllSubscribed) fun _ _ => rfl
      exact ⟨(List.append_nil omitted).symm ▸ marked, rfl⟩
  | onTransactionFailed callback =>
      have registered := follows.changed (·.onTransactionFailed callback) fun _ _ => rfl
      exact ⟨(List.append_nil omitted).symm ▸ registered, rfl⟩
  | request =>
      refine ⟨⟨?_, ?_, follows.backend, follows.resolved, follows.transaction⟩, rfl⟩
      · rw [length_requests_step, List.length_append, follows.length]
      · exact (congrArg (· ++ [Request.active .unstarted]) follows.requests).trans
          (Request.remaining_append follows.length false _).symm
  | poll index =>
      have known := follows.getElem?_requests (kept index rfl)
      have polled : Follows omitted (scene.step backend (.poll index))
          (other.step backend (.poll (Request.number omitted index))) := by
        simp only [Scene.step, known]
        split
        · exact follows.pollRequest (kept index rfl) backend _
        · exact follows
      refine ⟨(List.append_nil omitted).symm ▸ polled, congrArg Reply.executed ?_⟩
      rw [result?, result?, polled.getElem?_requests (kept index rfl)]
  | drop index =>
      have dropped : Follows omitted (scene.step backend (.drop index))
          (other.step backend (.drop (Request.number omitted index))) := by
        refine ⟨?_, ?_, follows.backend, follows.resolved, follows.transaction⟩
        · rw [length_requests_step, follows.length]
          rfl
        · exact (congrArg (List.modify · _ _) follows.requests).trans
            (Request.remaining_modify (kept index rfl) _ _).symm
      exact ⟨(List.append_nil omitted).symm ▸ dropped, rfl⟩
  | pollParticipant id waker =>
      have present : other.transaction.isPresent id = scene.transaction.isPresent id := by
        obtain ⟨core, past, otherPast, first, second, -⟩ := follows.transaction
        rw [first, second]
        rfl
      obtain ⟨polled, replies⟩ := follows.pollPresent backend id waker
      have polled : Follows omitted (scene.step backend (.pollParticipant id waker))
          (other.step backend (.pollParticipant id waker)) := by
        simp only [Scene.step, present]
        split
        · exact polled
        · exact follows
      refine ⟨(List.append_nil omitted).symm ▸ polled, ?_⟩
      simp only [Action.renumber, Scene.reply, present, replies]
  | dropParticipant id =>
      have dropped := follows.changed (·.depart id) fun _ _ => rfl
      exact ⟨(List.append_nil omitted).symm ▸ dropped, rfl⟩

end Follows

/-- What is done with a request which is omitted does not show. -/
theorem Follows.requested (follows : Follows omitted scene other)
    (about : action.request? = some index) (among : omitted[index]? = some true)
    (doomed : (scene.step backend action).Doomed index) :
    Follows omitted (scene.step backend action) other := by
  obtain ⟨-, same | ⟨error, same⟩⟩ := doomed_of_step about doomed
  · rwa [same]
  · rw [same]
    refine ⟨?_, ?_, follows.backend, follows.resolved, follows.transaction.returned error⟩
    · exact follows.length.trans List.length_set.symm
    · rw [List.set_eq_modify, Request.remaining_modify_of_omitted among]
      exact follows.requests

/-- Without the calls which are omitted, a run leads to a scene without them, with the same
replies to all others. -/
theorem Omits.follows (omits : Omits backend omitted scene actions kept)
    (follows : Follows omitted scene other) :
    other.replies backend (kept.map Prod.fst) = kept.map Prod.snd ∧
      ∃ all, Follows all (scene.run backend actions) (other.run backend (kept.map Prod.fst)) := by
  induction omits generalizing other with
  | done _ => exact ⟨rfl, _, follows⟩
  | addition refused _ inductionHypothesis =>
      obtain ⟨-, same⟩ := step_of_refused refused
      exact inductionHypothesis (by rwa [same])
  | request _ inductionHypothesis =>
      refine inductionHypothesis
        ⟨?_, ?_, follows.backend, follows.resolved, follows.transaction⟩
      · rw [length_requests_step, List.length_append, follows.length]
        rfl
      · exact follows.requests.trans (((Request.remaining_append follows.length true _).trans
          (List.append_nil _)).symm)
  | @requested _ scene action _ _ index about among later inductionHypothesis =>
      have made : action.requests = [] := by cases action <;> first | rfl | cases about
      have doomed := later.doomed (by rw [length_requests_step, made, follows.length]; rfl)
      exact inductionHypothesis (follows.requested about among (doomed index among))
  | kept others _ inductionHypothesis =>
      obtain ⟨stepped, replies⟩ := follows.step others
      obtain ⟨later, all⟩ := inductionHypothesis stepped
      exact ⟨congrArg₂ List.cons replies later, all⟩

/-! ## Omitting all rejected calls -/

theorem requested_iff {final : Scene σ} :
    ((List.range scene.requests.length).map final.rejected)[index]? = some true ↔
      index < scene.requests.length ∧ final.rejected index = true := by
  rw [List.getElem?_map]
  by_cases inside : index < scene.requests.length
  · simp [inside]
  · simp [inside]

/-- A new request is omitted if it is rejected in the end. -/
theorem exists_omits_request {final : Scene σ} {actions : List Action} {kept : List (Action × Reply)}
    (omits : Omits backend ((List.range (scene.requests.length + 1)).map final.rejected)
      (scene.step backend .request) actions kept)
    (accepted : ∀ entry ∈ kept, entry.2.isRejection = false) :
    ∃ kept, Omits backend ((List.range scene.requests.length).map final.rejected) scene
        (.request :: actions) kept ∧
      ∀ entry ∈ kept, entry.2.isRejection = false := by
  rw [List.range_succ, List.map_append, List.map_singleton] at omits
  cases rejected : final.rejected scene.requests.length with
  | true =>
      rw [rejected] at omits
      exact ⟨kept, .request omits, accepted⟩
  | false =>
      rw [rejected] at omits
      exact ⟨_, .kept (by rintro _ ⟨⟩) omits, List.forall_mem_cons.mpr ⟨rfl, accepted⟩⟩

/-- All calls of a run which are rejected can be omitted together. -/
theorem exists_omits (backend : Backend σ) (scene : Scene σ) (actions : List Action) :
    ∃ kept, Omits backend
        ((List.range scene.requests.length).map (scene.run backend actions).rejected) scene actions
        kept ∧
      ∀ entry ∈ kept, entry.2.isRejection = false := by
  induction actions generalizing scene with
  | nil =>
      refine ⟨[], .done fun index among => ?_, List.forall_mem_nil _⟩
      exact rejected_iff.mp (requested_iff.mp among).2
  | cons action actions inductionHypothesis =>
      obtain ⟨kept, omits, accepted⟩ := inductionHypothesis (scene.step backend action)
      rw [length_requests_step] at omits
      by_cases request : action = .request
      · subst request
        exact exists_omits_request omits accepted
      have made : action.requests = [] := by
        cases action <;> first | rfl | exact absurd rfl request
      rw [made, List.length_nil, Nat.add_zero] at omits
      by_cases requested : ∃ index, action.request? = some index ∧
          ((List.range scene.requests.length).map
            ((scene.step backend action).run backend actions).rejected)[index]? = some true
      · obtain ⟨index, about, among⟩ := requested
        exact ⟨kept, .requested about among omits, accepted⟩
      by_cases refused : ∃ error, scene.reply backend action = .added (.error error)
      · obtain ⟨error, refused⟩ := refused
        exact ⟨kept, .addition refused omits, accepted⟩
      refine ⟨_, .kept (fun index about among => requested ⟨index, about, among⟩)
        (by rwa [made, List.append_nil]), List.forall_mem_cons.mpr ⟨?_, accepted⟩⟩
      -- Whatever was rejected here would have been omitted.
      by_contra rejection
      rcases rejection_cases (by simpa using rejection) actions with refusal | rejected
      · exact refused refusal
      · obtain ⟨index, about, rejected⟩ := rejected
        exact requested ⟨index, about, requested_iff.mpr rejected⟩

/-- Rejected calls leave no trace.  A request which is refused because statements are missing or
not subscribed does nothing but log that, and an addition to a transaction which is not pending any
more does nothing at all.  Therefore all of these calls, or any number of them, may be omitted from
a run or added to it: the other calls get the same replies, the backend was polled in the same way,
participants have resolved with the same outcomes, and apart from those errors the same has happened
to the transaction. -/
theorem rejections_leave_no_trace (backend : Backend σ) (expected : Nat) (threshold : Duration)
    (state : σ) (actions : List Action) :
    let start := initial expected threshold state
    let scene := start.run backend actions
    (∀ index execution error, scene.requests[index]? = some (.active execution) →
      (scene.step backend (.poll index)).result? index = some (.error error) →
        (error = .notAllSubscribed scene.transaction.awaiting.length ∨
          error = .modifiedAfterCreation scene.transaction.expected
            scene.transaction.members.length) ∧
          scene.step backend (.poll index) =
            { scene with
              transaction := scene.transaction.log (.returned error)
              requests := scene.requests.set index (.finished (.error error)) }) ∧
    (∀ action error, scene.reply backend action = .added (.error error) →
      error = .notPending scene.transaction.state ∧ scene.step backend action = scene) ∧
    (∃ kept, Omits backend [] start actions kept ∧
      ∀ entry ∈ kept, entry.2.isRejection = false) ∧
    ∀ kept, Omits backend [] start actions kept →
      let other := start.run backend (kept.map Prod.fst)
      start.replies backend (kept.map Prod.fst) = kept.map Prod.snd ∧
        other.backend = scene.backend ∧ other.resolved = scene.resolved ∧
        { other.transaction with history := scene.transaction.history } = scene.transaction ∧
        other.transaction.notices = scene.transaction.notices ∧
        other.transaction.history.filter (!·.isReturned) =
          scene.transaction.history.filter (!·.isReturned) := by
  intro start scene
  refine ⟨?_, fun action error => step_of_refused, exists_omits backend start actions, ?_⟩
  · intro index execution error active rejected
    exact (step_of_rejected active rejected).2
  · intro kept omits other
    have alike : Follows [] start start := ⟨rfl, rfl, rfl, rfl, .refl _⟩
    obtain ⟨replies, all, follows⟩ := omits.follows alike
    exact ⟨replies, follows.backend, follows.resolved, follows.transaction.eq,
      follows.transaction.notices, follows.transaction.history⟩

/-- A request comes too early and an addition comes too late, and without both of them the
transaction is committed in the same way. -/
theorem no_trace_of_early_request :
    let backend := Backend.failing fun _ => false
    let update : Statement := ⟨"a", .update, ⟨"a", []⟩, []⟩
    let start := initial 1 ⟨0⟩ ()
    let actions : List Action :=
      [.add (.ok update) "first" false, .request, .poll 0, .markAllSubscribed, .request, .poll 1,
        .add (.error .serialize) "second" false]
    let fewer : List Action :=
      [.add (.ok update) "first" false, .markAllSubscribed, .request, .poll 0]
    let scene := start.run backend actions
    let other := start.run backend fewer
    ∃ kept, kept.map Prod.fst = fewer ∧ Omits backend [] start actions kept ∧
      start.replies backend fewer = kept.map Prod.snd ∧ other.exchanges = scene.exchanges ∧
      other.transaction.notices = scene.transaction.notices ∧
      scene.transaction.state = .committed := by
  intro backend update start actions fewer scene other
  obtain ⟨kept, same, omits⟩ : ∃ kept : List (Action × Reply), kept.map Prod.fst = fewer ∧
      Omits backend [] start actions kept := by
    refine ⟨_, ?_, .kept ?_ <| .request <| .requested rfl rfl <| .kept ?_ <| .kept ?_ <|
      .kept ?_ <| .addition (reply_add_of_begun ?_ _ _ _) <| .done ?_⟩
    · rfl
    · rintro _ ⟨⟩
    · rintro _ ⟨⟩
    · rintro _ ⟨⟩
    · rintro _ ⟨⟩ ⟨⟩
    · decide +kernel
    · rintro (_ | _ | index) among
      · exact rejected_iff.mp (by decide +kernel)
      · cases among
      · cases among
  obtain ⟨-, -, -, without⟩ := rejections_leave_no_trace backend 1 ⟨0⟩ () actions
  obtain ⟨replies, polled, -, -, notices, -⟩ := without kept omits
  rw [same] at replies polled notices
  exact ⟨kept, same, omits, replies, congrArg Prod.snd polled, notices, by decide +kernel⟩

end Scene

end NamedSql
