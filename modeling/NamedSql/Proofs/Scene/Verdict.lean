import NamedSql.Proofs.Scene.Completion

/-!
# The outcomes of participants

A participant resolves with an outcome which was noticed, or with the error of the
shared execution if that was refused.  Hence participants never contradict each other.
An error is final unless the shared execution was refused because statements were
missing: nothing keeps these from being added later.
-/

namespace NamedSql

open Ledger (Standing)
open Exchange (answers)

/-! ## Notices tell how a transaction ends -/

/-- Only errors are told early. -/
theorem error_of_earlyNotices {statements : List (Except SharedError Statement)} {event : Event}
    (noticed : event ∈ earlyNotices statements) :
    ∃ id state error, event = .notified id state (.error error) := by
  obtain ⟨notices, among, noticed⟩ := List.mem_flatten.mp noticed
  obtain ⟨id, inside, rfl⟩ := List.mem_mapIdx.mp among
  cases statement : statements[id] with
  | ok _ =>
      rw [statement] at noticed
      cases noticed
  | error error =>
      rw [statement] at noticed
      exact ⟨id, .pending, error, List.mem_singleton.mp noticed⟩

/-- Only the error is told to the statements of a failed transaction. -/
theorem error_of_failures {statements : List (Except SharedError Statement)}
    {error : SharedError} {event : Event} (noticed : event ∈ failures statements error) :
    ∃ id state, event = .notified id state (.error error) := by
  obtain ⟨notices, among, noticed⟩ := List.mem_flatten.mp noticed
  obtain ⟨id, inside, rfl⟩ := List.mem_mapIdx.mp among
  split at noticed
  · cases noticed
  · exact ⟨id, .rolledBack, List.mem_singleton.mp noticed⟩

/-- Only outputs are told to the statements of a committed transaction. -/
theorem ok_of_completions {outputs : List Output} {event : Event}
    (noticed : event ∈ completions outputs) :
    ∃ id output, event = .notified id .committed (.ok output) := by
  obtain ⟨id, inside, rfl⟩ := List.mem_mapIdx.mp noticed
  exact ⟨id, _, rfl⟩

theorem not_notified_of_callbackNotice {callback : Option String} {error : SharedError}
    {id : Nat} {state : TransactionState} {outcome : Outcome} :
    Event.notified id state outcome ∉ callbackNotice callback error := by
  cases callback <;> simp [callbackNotice]

namespace Ledger

variable {ledger : Ledger} {exchanges : List Exchange} {callback : Option String}
  {current : Option Run} {id : Nat} {state : TransactionState}

/-- Whoever is told an output belongs to a committed transaction. -/
theorem Standing.committed_of_output (standing : ledger.Standing exchanges callback current)
    {output : Output} (noticed : .notified id state (.ok output) ∈ ledger.notices) :
    ledger.state = .committed := by
  cases standing with
  | gathering gathering _ _ =>
      rw [gathering.notices] at noticed
      obtain ⟨_, _, _, equal⟩ := error_of_earlyNotices noticed
      cases equal
  | underway underway _ =>
      rw [underway.notices] at noticed
      cases noticed
  | @settled outcome outputs settled =>
      cases outcome with
      | ok _ => exact settled.state
      | error error =>
          rw [settled.notices] at noticed
          rcases List.mem_append.mp noticed with told | called
          · rcases List.mem_append.mp told with early | late
            · obtain ⟨_, _, _, equal⟩ := error_of_earlyNotices early
              cases equal
            · obtain ⟨_, _, equal⟩ := error_of_failures late
              cases equal
          · exact absurd called not_notified_of_callbackNotice

/-- Whoever is told an error belongs to a transaction which is not committed. -/
theorem Standing.uncommitted_of_error (standing : ledger.Standing exchanges callback current)
    {error : SharedError} (noticed : .notified id state (.error error) ∈ ledger.notices) :
    ledger.state ≠ .committed ∧ (⟨.commit, .ok ()⟩ : Answered) ∉ answers exchanges := by
  cases standing with
  | gathering gathering silent _ =>
      rw [gathering.state, silent]
      exact ⟨nofun, List.not_mem_nil⟩
  | underway underway _ =>
      rw [underway.notices] at noticed
      cases noticed
  | @settled outcome outputs settled =>
      rw [settled.state, ← settled.concluded.committed_iff]
      cases outcome with
      | error error => exact ⟨nofun, nofun⟩
      | ok _ =>
          rw [settled.notices] at noticed
          obtain ⟨_, _, equal⟩ := ok_of_completions noticed
          cases equal

end Ledger

/-! ## Why a participant resolves -/

namespace Transaction

/-- The shared execution was refused. -/
def Refused (t : Transaction) : Prop :=
  ∃ error, t.shared = some (.finished (.error error))

theorem Keeps.refused_iff {before after : Transaction} (keeps : Keeps before after) :
    after.Refused ↔ before.Refused := by
  have shared : after.shared = before.shared := congrArg Attendance.shared keeps.attendance
  rw [Refused, Refused, shared]

/-- Why the participant of a statement resolves with an outcome. -/
inductive Justified (t : Transaction) (id : Nat) : Outcome → Prop
  | refused {error : SharedError} (finished : t.shared = some (.finished (.error error))) :
      Justified t id (.error error)
  | failed {error : SharedError} {state : TransactionState}
      (noticed : .notified id state (.error error) ∈ t.notices) : Justified t id (.error error)
  | completed {output : Output} {state : TransactionState}
      (noticed : .notified id state (.ok output) ∈ t.notices) (accepted : ¬ t.Refused) :
      Justified t id (.ok output)

variable {t before after : Transaction} {id : Nat} {outcome : Outcome}

theorem Justified.grown (justified : before.Justified id outcome) (grows : Grows before after)
    (accepted : ∀ state output, .notified id state (.ok output) ∈ before.notices →
      ¬ before.Refused → ¬ after.Refused) : after.Justified id outcome := by
  cases justified with
  | refused finished => exact .refused (grows.finished _ finished)
  | failed noticed => exact .failed (grows.notices noticed)
  | completed noticed unrefused =>
      exact .completed (grows.notices noticed) (accepted _ _ noticed unrefused)

theorem Justified.kept (justified : before.Justified id outcome) (keeps : Keeps before after) :
    after.Justified id outcome := by
  apply justified.grown keeps.grows
  intro _ _ _ accepted
  rwa [keeps.refused_iff]

theorem justified_of_delivered (informed : t.Informed) (accepted : ¬ t.Refused)
    (delivered : t.delivered? id = some outcome) : t.Justified id outcome := by
  obtain ⟨state, noticed⟩ := informed id outcome delivered
  cases outcome with
  | ok output => exact .completed noticed accepted
  | error error => exact .failed noticed

theorem justified_receive (informed : t.Informed) (accepted : ¬ t.Refused)
    (received : (t.receive id).1 = some outcome) : (t.receive id).2.Justified id outcome := by
  have delivered : t.delivered? id = some outcome := by
    rw [receive] at received
    split at received
    next handed => rw [handed, ← received]
    next => cases received
  exact (justified_of_delivered informed accepted delivered).kept (t.keeps_receive id)

variable {σ : Type} (backend : Backend σ) {shared : SharedExecution} {state later : σ}

/-- Whatever a participant resolves with, there is a reason. -/
theorem justified_pollParticipant (informed : t.Informed) {waker : Waker}
    (polled : t.pollParticipant backend id waker state = (some outcome, after, later)) :
    after.Justified id outcome := by
  have subscribed := (t.grows_subscribeOnce id).informed informed
  have visit := t.visit backend id waker state
  rw [polled] at visit
  generalize resolved : some outcome = result at visit
  cases visit with
  | early idle =>
      have awaits := keeps_awaitStart (t.subscribeOnce id) waker
      apply justified_receive (awaits.informed subscribed) _ resolved.symm
      rw [awaits.refused_iff]
      rintro ⟨error, finished⟩
      cases idle.symm.trans finished
  | suspended _ _ => cases resolved
  | @refused shared error after _ started ended =>
      cases resolved
      have finished := finished_of_pollShared backend started ended
      exact Justified.kept (.refused finished) (after.keeps_depart id)
  | @completed shared after _ started ended =>
      have grows := grows_pollShared backend started state
      have finished := finished_of_pollShared backend started ended
      rw [ended] at grows
      apply justified_receive (grows.informed subscribed) _ resolved.symm
      rintro ⟨error, refused⟩
      cases finished.symm.trans refused

/-! ## When the shared execution is refused -/

/-- An execution which has begun is not refused. -/
theorem refused_of_pollShared {expected count : Nat}
    (shares : Attendance.Shares expected count t.shared) (started : t.shared = some shared)
    (refused : (t.pollShared backend shared state).2.1.Refused) : t.Refused := by
  rw [started] at shares
  cases shares with
  | running run =>
      have successful := fun error => carryOn_ne_error (t := t) backend run state error
      rcases polled : t.execute backend (.running run) state with ⟨progress, after, later⟩
      obtain ⟨_, _, _, finished, kept⟩ := t.pollShared_active backend polled
      obtain ⟨error, refused⟩ := refused
      rw [finished] at refused
      cases refused
      cases kept with
      | refused => exact absurd (congrArg Prod.fst polled) (successful _)
  | completed =>
      exact refused
  | refused _ _ _ => exact ⟨_, started⟩

/-- When no statement is awaited, a participant does not start the shared execution. -/
theorem refused_of_pollParticipant {expected : Nat} (sound : t.attendance.Sound expected)
    (closed : t.awaiting = []) {waker : Waker}
    (refused : (t.pollParticipant backend id waker state).2.1.Refused) : t.Refused := by
  have same : (t.subscribeOnce id).shared = t.shared := by
    rcases t.attendance_subscribeOnce id with same | same | ⟨awaited, -, -⟩
    · exact congrArg Attendance.shared same
    · exact congrArg Attendance.shared same
    · exact absurd closed awaited
  have shares : Attendance.Shares expected t.attendance.subscribed.length
      (t.subscribeOnce id).shared := same ▸ sound.shared
  have visited := t.visited backend id waker state
  suffices earlier : (t.subscribeOnce id).Refused by
    rwa [Refused, same] at earlier
  generalize (t.pollParticipant backend id waker state).2 = result at visited refused
  cases visited with
  | early _ tends => exact tends.keeps.refused_iff.mp refused
  | shared started polled tends =>
      apply refused_of_pollShared backend shares started
      rw [polled]
      exact tends.keeps.refused_iff.mp refused

end Transaction

namespace Scene

variable {σ : Type} {backend : Backend σ} {scene : Scene σ} {expected : Nat}
  {callback : Option String} {current : Option Run}

theorem refused_of_register {statement : Except Error Statement} {sink : Sink}
    (refused : (scene.register (scene.transaction.add statement sink)).transaction.Refused) :
    scene.transaction.Refused := by
  cases added : scene.transaction.add statement sink with
  | error _ =>
      rw [added] at refused
      exact refused
  | ok result =>
      rw [added] at refused
      exact (scene.transaction.keeps_add added).refused_iff.mp refused

/-- When no statement is awaited, the shared execution is not refused any more. -/
theorem refused_of_step (sound : scene.transaction.attendance.Sound expected)
    (closed : scene.transaction.awaiting = []) {action : Action}
    (refused : (scene.step backend action).transaction.Refused) : scene.transaction.Refused := by
  cases action with
  | add statement name refuses => exact refused_of_register refused
  | participate statement => exact refused_of_register refused
  | markSubscribed id => exact refused
  | markAllSubscribed => exact refused
  | onTransactionFailed name => exact refused
  | request => exact refused
  | poll index =>
      simp only [step] at refused
      split at refused
      next execution _ =>
        exact (scene.transaction.keeps_execute backend.recording execution _).refused_iff.mp refused
      next => exact refused
  | drop index => exact refused
  | pollParticipant id waker =>
      simp only [step] at refused
      split at refused
      · exact Transaction.refused_of_pollParticipant backend.recording sound closed refused
      · exact refused
  | dropParticipant id => exact (scene.transaction.keeps_depart id).refused_iff.mp refused

/-- Whoever has resolved had a reason, which lasts. -/
structure Justified (scene : Scene σ) : Prop where
  informed : scene.transaction.Informed
  resolved : ∀ id outcome, (id, outcome) ∈ scene.resolved →
    scene.transaction.Justified id outcome

/-- Only the poll of a participant lets one resolve. -/
theorem resolved_step {action : Action} {id : Nat} {outcome : Outcome}
    (informed : scene.transaction.Informed)
    (resolved : (id, outcome) ∈ (scene.step backend action).resolved) :
    (id, outcome) ∈ scene.resolved ∨
      (scene.step backend action).transaction.Justified id outcome := by
  cases action with
  | add statement name refuses =>
      rw [step, resolved_register] at resolved
      exact .inl resolved
  | participate statement =>
      rw [step, resolved_register] at resolved
      exact .inl resolved
  | poll index =>
      simp only [step] at resolved
      split at resolved <;> exact .inl resolved
  | pollParticipant other waker =>
      simp only [step] at resolved ⊢
      split at resolved
      next present =>
        rw [if_pos present]
        rw [pollPresent] at resolved ⊢
        rcases polled : scene.transaction.pollParticipant backend.recording other waker
          scene.backend with ⟨_ | result, after, later⟩
        · rw [polled] at resolved
          rcases List.mem_append.mp resolved with earlier | now
          · exact .inl earlier
          · cases now
        · rw [polled] at resolved
          rcases List.mem_append.mp resolved with earlier | now
          · exact .inl earlier
          · cases List.mem_singleton.mp now
            exact .inr (Transaction.justified_pollParticipant backend.recording informed polled)
      next => exact .inl resolved
  | _ => exact .inl resolved

theorem Justified.step (justified : scene.Justified) (coherent : scene.Coherent callback current)
    (sound : scene.transaction.attendance.Sound expected) (action : Action) :
    (scene.step backend action).Justified := by
  have grows := scene.grows_step backend action
  constructor
  · exact grows.informed justified.informed
  · intro id outcome resolved
    rcases resolved_step justified.informed resolved with earlier | now
    · apply (justified.resolved id outcome earlier).grown grows
      intro state output noticed accepted refused
      have committed : scene.transaction.state = .committed :=
        coherent.standing.committed_of_output noticed
      have closed : scene.transaction.awaiting = [] := by
        apply coherent.closed
        rw [committed]
        exact nofun
      exact accepted (refused_of_step sound closed refused)
    · exact now

/-! ## Runs -/

theorem resolved_subset_step (backend : Backend σ) (scene : Scene σ) (action : Action) :
    scene.resolved ⊆ (scene.step backend action).resolved := by
  cases action with
  | add statement name refuses =>
      rw [step, resolved_register]
      exact List.Subset.refl _
  | participate statement =>
      rw [step, resolved_register]
      exact List.Subset.refl _
  | poll index =>
      simp only [step]
      split <;> exact List.Subset.refl _
  | pollParticipant id waker =>
      simp only [step]
      split
      · exact List.subset_append_left _ _
      · exact List.Subset.refl _
  | _ => exact List.Subset.refl _

theorem resolved_subset_run (backend : Backend σ) (scene : Scene σ) (actions : List Action) :
    scene.resolved ⊆ (scene.run backend actions).resolved := by
  induction actions generalizing scene with
  | nil => exact List.Subset.refl _
  | cons action actions inductionHypothesis =>
      exact List.Subset.trans (scene.resolved_subset_step backend action)
        (inductionHypothesis _)

/-- Whoever has resolved in a run of a new transaction had a reason. -/
theorem justified_run (backend : Backend σ) (expected : Nat) (threshold : Duration) (state : σ)
    (actions : List Action) :
    ((initial expected threshold state).run backend actions).Justified := by
  induction actions using List.reverseRecOn with
  | nil => exact ⟨fun id _ delivered => (nomatch delivered), fun _ _ resolved => (nomatch resolved)⟩
  | append_singleton actions action inductionHypothesis =>
      obtain ⟨_, _, coherent⟩ := coherent_run expected threshold state backend actions
      have sound := sound_run expected threshold state backend actions
      rw [run_concat]
      exact inductionHypothesis.step coherent sound action

/-- A transaction which commits after a participant has resolved with an error was refused
before, because statements were missing. -/
theorem Coherent.missing_of_commit (coherent : scene.Coherent callback current)
    (sound : scene.transaction.attendance.Sound expected) (justified : scene.Justified) {id : Nat}
    {error : SharedError} (resolved : (id, .error error) ∈ scene.resolved)
    (committed : (⟨.commit, .ok ()⟩ : Answered) ∈ answers scene.exchanges) :
    ∃ actual < expected, error.error = .modifiedAfterCreation expected actual := by
  obtain ⟨counted, -⟩ := coherent.standing.complete_of_commit committed
  cases justified.resolved id _ resolved with
  | failed noticed => exact absurd committed (coherent.standing.uncommitted_of_error noticed).2
  | refused finished =>
      have shares := sound.shared
      rw [show scene.transaction.attendance.shared = _ from finished] at shares
      cases shares with
      | @refused _ actual reason wrong inside =>
          have total : scene.transaction.attendance.subscribed.length = expected := by
            calc scene.transaction.attendance.subscribed.length
                = scene.transaction.members.length := List.length_map _
              _ = scene.transaction.ledger.lines.length := (List.length_map _).symm
              _ = scene.transaction.expected := counted
              _ = expected := sound.created
          exact ⟨actual, Nat.lt_of_le_of_ne (inside.trans total.le) wrong, reason⟩

/-- Participants never contradict each other. -/
theorem Coherent.agree (coherent : scene.Coherent callback current) (justified : scene.Justified)
    {id other : Nat} {output : Output} {error : SharedError}
    (succeeded : (id, .ok output) ∈ scene.resolved) :
    (other, .error error) ∉ scene.resolved := by
  intro failed
  cases justified.resolved id _ succeeded with
  | completed told accepted =>
      cases justified.resolved other _ failed with
      | refused finished => exact accepted ⟨error, finished⟩
      | failed noticed =>
          exact (coherent.standing.uncommitted_of_error noticed).1
            (coherent.standing.committed_of_output told)

/-- No two participants resolve differently, and the error of a participant is final unless
the shared execution was refused because statements were missing.  In that case nothing
keeps a transaction from being completed and committed: over a backend which obliges, this
is possible as long as the transaction is pending, its statements are bound and not too
many were added. -/
theorem final_unless_missing (backend : Backend σ) (expected : Nat) (threshold : Duration)
    (state : σ) (actions : List Action) :
    let scene := (initial expected threshold state).run backend actions
    (∀ id output other error, (id, .ok output) ∈ scene.resolved →
      (other, .error error) ∉ scene.resolved) ∧
    (∀ id error, (id, .error error) ∈ scene.resolved → ∀ later,
      (⟨.commit, .ok ()⟩ : Answered) ∈ answers (scene.run backend later).exchanges →
        ∃ actual < expected, error.error = .modifiedAfterCreation expected actual) ∧
    (backend.Obliging → scene.transaction.state = .pending →
      ((∃ later, (⟨.commit, .ok ()⟩ : Answered) ∈
          answers (scene.run backend later).exchanges) ↔
        scene.transaction.members.length ≤ expected ∧
          ∃ statements : List Statement,
            scene.transaction.members.map (·.statement) = statements.map .ok)) := by
  intro scene
  obtain ⟨callback, current, coherent⟩ := coherent_run expected threshold state backend actions
  have sound := sound_run expected threshold state backend actions
  have justified := justified_run backend expected threshold state actions
  change scene.Coherent callback current at coherent
  change scene.transaction.attendance.Sound expected at sound
  change scene.Justified at justified
  refine ⟨?_, ?_, ?_⟩
  · intro id output other error succeeded
    exact coherent.agree justified succeeded
  · intro id error resolved later committed
    obtain ⟨_, _, after⟩ := coherent_run expected threshold state backend (actions ++ later)
    have sound := sound_run expected threshold state backend (actions ++ later)
    have justified := justified_run backend expected threshold state (actions ++ later)
    rw [run_append] at after sound justified
    exact after.missing_of_commit sound justified
      (scene.resolved_subset_run backend later resolved) committed
  · intro obliging pending
    have created : scene.transaction.expected = expected := sound.created
    have committable := committable_iff obliging coherent pending
    rwa [created] at committable

/-- A participant is refused because another statement is missing, and the transaction
can still be committed. -/
theorem committable_after_refusal :
    let update : Statement := ⟨"a", .update, ⟨"a", []⟩, []⟩
    let backend := Backend.failing fun _ => false
    let scene := (initial 2 ⟨0⟩ ()).run backend
      [.participate (.ok update), .pollParticipant 0 ⟨0, 0⟩]
    scene.resolved = [(0, .error ⟨0, .modifiedAfterCreation 2 1⟩)] ∧
      backend.Obliging ∧ scene.transaction.state = .pending ∧
      ∃ later, (⟨.commit, .ok ()⟩ : Answered) ∈
        answers (scene.run backend later).exchanges := by
  intro update backend scene
  have pending : scene.transaction.state = .pending := by decide +kernel
  have room : scene.transaction.members.length ≤ 2 := by decide +kernel
  have bound : scene.transaction.members.map (·.statement) = [update].map .ok := by cbv
  obtain ⟨-, -, committable⟩ := final_unless_missing backend 2 ⟨0⟩ ()
    [.participate (.ok update), .pollParticipant 0 ⟨0, 0⟩]
  refine ⟨by cbv, Backend.obliging_failing, pending, ?_⟩
  exact (committable Backend.obliging_failing pending).mpr ⟨room, [update], bound⟩

/-- A participant is refused because another statement is missing.  When that one is
added, a request commits both. -/
theorem committed_after_refusal :
    let update : Statement := ⟨"a", .update, ⟨"a", []⟩, []⟩
    let backend := Backend.failing fun _ => false
    let refused := (initial 2 ⟨0⟩ ()).run backend
      [.participate (.ok update), .pollParticipant 0 ⟨0, 0⟩]
    let scene := refused.run backend
      [.participate (.ok update), .markAllSubscribed, .request, .poll 0]
    refused.resolved = [(0, .error ⟨0, .modifiedAfterCreation 2 1⟩)] ∧
      Exchange.calls scene.exchanges = [.acquire, .autoCommit false, .batch "a" [[], []], .commit,
        .autoCommit true, .close] ∧
      scene.transaction.state = .committed := by
  intro update backend refused scene
  refine ⟨?_, ?_, ?_⟩
  · cbv
  · decide +kernel
  · decide +kernel

end Scene

end NamedSql
