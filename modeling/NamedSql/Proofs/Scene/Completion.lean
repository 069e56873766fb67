import NamedSql.Proofs.Scene.Polls
import NamedSql.Proofs.Scene.Trace

/-!
# Completing a transaction

A pending transaction can still be completed and committed exactly if all of its
statements are bound and not too many were added.
-/

namespace NamedSql

open Exchange (answers)

/-! ## Backends which oblige -/

/-- An operation succeeded, with one output for every command which it executes. -/
def Answered.Obliged (answered : Answered) : Prop :=
  ∃ answer, answered.answer = .ok answer ∧
    (answered.operation.outputs answer).length = answered.operation.commands.length

/-- A poll which was answered at once, by an operation which succeeded. -/
def Exchange.Obliged (exchange : Exchange) : Prop :=
  ∃ answered, exchange.answered? = some answered ∧ answered.Obliged

/-- A backend which neither suspends nor fails. -/
def Backend.Obliging {σ : Type} (backend : Backend σ) : Prop :=
  ∀ operation suspended state,
    (⟨operation, suspended, (backend.poll operation suspended state).1⟩ : Exchange).Obliged

theorem Exchange.obliged_answers {exchanges : List Exchange}
    (obliged : ∀ exchange ∈ exchanges, exchange.Obliged) :
    ∀ answered ∈ answers exchanges, answered.Obliged := by
  intro answered among
  obtain ⟨exchange, member, found⟩ := List.mem_filterMap.mp among
  obtain ⟨other, same, obliged⟩ := obliged exchange member
  cases found.symm.trans same
  exact obliged

theorem Backend.Obliging.prompt {σ : Type} {backend : Backend σ} (obliging : backend.Obliging) :
    backend.Prompt := by
  intro operation suspended state silent
  obtain ⟨answered, found, -⟩ := obliging operation suspended state
  rw [Exchange.answered?, silent] at found
  cases found

/-- A backend without failures obliges. -/
theorem Backend.obliging_failing : (Backend.failing fun _ => false).Obliging := by
  intro operation suspended state
  refine ⟨⟨operation, .ok operation.success⟩, rfl, operation.success, rfl, ?_⟩
  cases operation <;> simp [Operation.success, Operation.outputs, Operation.commands]

/-! ## Courses without failures -/

namespace Attempt

/-- If no failure was come to, there is none. -/
theorem succeeded_of_upToFailure {attempts : List Attempt}
    (succeeded : ∀ attempt ∈ upToFailure attempts, attempt.failure = none) :
    ∀ attempt ∈ attempts, attempt.failure = none := by
  induction attempts with
  | nil => exact fun _ member => nomatch member
  | cons attempt rest inductionHypothesis =>
      rw [upToFailure] at succeeded
      by_cases failed : attempt.failure.isSome = true
      · rw [if_pos failed] at succeeded
        rw [succeeded attempt List.mem_cons_self] at failed
        cases failed
      · rw [if_neg failed] at succeeded
        intro other member
        rcases List.mem_cons.mp member with rfl | later
        · exact succeeded other List.mem_cons_self
        · exact inductionHypothesis
            (fun other among => succeeded other (List.mem_cons_of_mem attempt among)) other later

theorem failure_of_obliged {attempt : Attempt} (obliged : attempt.answered.Obliged)
    (sized : (entryOperation attempt.entry).commands.length = attempt.entry.statements.length) :
    attempt.failure = none := by
  rcases attempt with ⟨entry, error | answer⟩
  · obtain ⟨_, answered, -⟩ := obliged
    cases answered
  · obtain ⟨_, answered, length⟩ := obliged
    cases answered
    have counted : ((entryOperation entry).outputs answer).length = entry.statements.length :=
      length.trans sized
    simp only [failure, counted]
    exact if_neg (not_not_intro rfl)

end Attempt

/-- A course of a plan has no failure if every operation obliged. -/
theorem Course.failure_of_obliged {statements : List (Except SharedError Statement)}
    {entries : List BoundEntry} (planned : planOf statements = .ok entries)
    {course : Course entries} (obliged : ∀ answered ∈ course.trace, answered.Obliged) :
    course.failure = none := by
  have succeeds {operation : Operation} {answer : Except Error operation.Answer}
      (issued : ⟨operation, answer⟩ ∈ course.trace) : ∃ success, answer = .ok success := by
    obtain ⟨success, answered, -⟩ := obliged _ issued
    exact ⟨success, answered⟩
  obtain ⟨_, acquired⟩ := succeeds (List.mem_cons_self : ⟨.acquire, course.acquire⟩ ∈ course.trace)
  have worked {answered : Answered} (member : answered ∈ course.work) :
      answered ∈ course.trace := by
    rw [trace_of_acquired acquired]
    exact List.mem_cons_of_mem _ (List.mem_append_left _ (List.mem_append_left _ member))
  obtain ⟨_, started⟩ := succeeds
    (worked (List.mem_cons_self : ⟨.autoCommit false, course.start⟩ ∈ course.work))
  have attempted : ∀ attempt ∈ course.attempts, attempt.failure = none := by
    apply Attempt.succeeded_of_upToFailure
    intro attempt member
    have issued : attempt.answered ∈ course.work := by
      simp only [work, started]
      exact List.mem_cons_of_mem _ (List.mem_append_left _ (List.mem_map_of_mem member))
    apply Attempt.failure_of_obliged (obliged _ (worked issued))
    have among : attempt.entry ∈ entries := by
      rw [← course.covers]
      exact List.mem_map_of_mem ((Attempt.upToFailure_prefix _).subset member)
    rw [commands_entryOperation (sameBatch_of_planOf planned among), List.length_map]
  have committed : ⟨.commit, course.commit⟩ ∈ course.work := by
    have unfailed := List.findSome?_eq_none_iff.mpr attempted
    simp [work, started, unfailed]
  obtain ⟨_, committed⟩ := succeeds (worked committed)
  exact course.failure_eq_none.mpr ⟨acquired, started, attempted, committed⟩

/-- Every poll of a backend which obliges is answered by an operation which succeeded. -/
theorem Backend.Obliging.preserves {σ : Type} {backend : Backend σ} (obliging : backend.Obliging) :
    backend.recording.Preserves fun state => ∀ exchange ∈ state.2, exchange.Obliged := by
  intro operation suspended state obliged exchange among
  rcases List.mem_append.mp among with earlier | last
  · exact obliged exchange earlier
  · rw [List.mem_singleton.mp last]
    exact obliging operation suspended state.1

/-! ## Completing -/

namespace Scene

variable {σ : Type} {backend : Backend σ} {scene : Scene σ} {callback : Option String}
  {current : Option Run}

/-- A complete transaction of bound statements commits when that is requested. -/
theorem committed_of_ready (obliging : backend.Obliging)
    (coherent : scene.Coherent callback current) (ready : scene.transaction.Ready)
    {index : Nat} (requested : scene.requests[index]? = some (.active .unstarted))
    {statements : List Statement}
    (bound : scene.transaction.attendance.statements = statements.map .ok) :
    (⟨.commit, .ok ()⟩ : Answered) ∈
      answers (scene.step backend (.poll index)).exchanges := by
  obtain ⟨-, final⟩ := finished_of_ready obliging.prompt coherent ready requested
  obtain ⟨_, polled⟩ := coherent.step backend (.poll index)
  obtain ⟨outcome, outputs, settled⟩ := polled.settled final
  have stepped := step_poll backend scene requested
  have obliged : ∀ exchange ∈ (scene.step backend (.poll index)).exchanges, exchange.Obliged := by
    have silent : scene.backend.2 = [] :=
      (coherent.standing.gathering_of_pending ready.state).2.1
    rw [stepped]
    apply Transaction.invariant_execute obliging.preserves .unstarted scene.transaction
    rw [silent]
    exact List.forall_mem_nil _
  have kept : (scene.step backend (.poll index)).transaction.ledger.statements =
      statements.map .ok := by
    have kept := (scene.transaction.keeps_execute backend.recording .unstarted
      scene.backend).attendance
    rw [stepped, Transaction.statements_ledger]
    exact (congrArg Attendance.statements kept).trans bound
  have concluded := settled.concluded
  rw [kept] at concluded
  cases concluded with
  | @unbound error first _ =>
      have none : (statements.map Except.ok).findSome? error? = (none : Option SharedError) := by
        simp [List.findSome?_eq_none_iff, error?]
      cases none.symm.trans first
  | conducted planned course answered _ _ =>
      have issued := Exchange.obliged_answers obliged
      rw [answered] at issued ⊢
      exact course.failure_eq_none_iff.mp (Course.failure_of_obliged planned issued)

/-- Statements can be added as long as a transaction is pending. -/
theorem run_participate (backend : Backend σ) (pending : scene.transaction.state = .pending) (statement : Statement)
    (count : Nat) :
    let after := scene.run backend (List.replicate count (.participate (.ok statement)))
    after.transaction.state = .pending ∧ after.transaction.attendance.statements =
      scene.transaction.attendance.statements ++ List.replicate count (.ok statement) := by
  induction count generalizing scene with
  | zero => exact ⟨pending, (List.append_nil _).symm⟩
  | succ count inductionHypothesis =>
      have added : scene.step backend (.participate (.ok statement)) =
          { scene with
            transaction := scene.transaction.enroll (.ok statement) (.participant {}) } := by
        rw [step, Transaction.participate, Transaction.add_ok pending]
        rfl
      have enrolled : (scene.step backend (.participate (.ok statement))).transaction.state =
          .pending := by
        rw [added]
        exact pending
      obtain ⟨still, statements⟩ := inductionHypothesis enrolled
      constructor
      · exact still
      · apply statements.trans
        rw [added, Transaction.attendance_enroll]
        simp [Attendance.enroll, List.replicate_succ]

/-- A pending transaction can be completed and committed if its statements are bound and
not too many. -/
theorem exists_commit (obliging : backend.Obliging) (coherent : scene.Coherent callback current)
    (pending : scene.transaction.state = .pending)
    (room : scene.transaction.members.length ≤ scene.transaction.expected)
    {statements : List Statement}
    (bound : scene.transaction.attendance.statements = statements.map .ok) :
    ∃ later, (⟨.commit, .ok ()⟩ : Answered) ∈ answers (scene.run backend later).exchanges := by
  let missing := scene.transaction.expected - scene.transaction.members.length
  let extra : Statement := ⟨"", .update, ⟨"", []⟩, []⟩
  let additions : List Action := List.replicate missing (.participate (.ok extra))
  obtain ⟨still, added⟩ := run_participate backend pending extra missing
  obtain ⟨_, _, filled⟩ := coherent.run backend additions
  have created := (scene.grows_run backend additions).created
  change (scene.run backend additions).transaction.state = .pending at still
  change (scene.run backend additions).transaction.attendance.statements = _ at added
  generalize reached : scene.run backend additions = full at still added filled created
  have size (t : Transaction) : t.attendance.statements.length = t.members.length :=
    List.length_map _
  have counted : full.transaction.members.length = full.transaction.expected := by
    rw [← size, added, List.length_append, size, List.length_replicate, created]
    exact Nat.add_sub_of_le room
  have all : full.transaction.attendance.statements =
      (statements ++ List.replicate missing extra).map .ok := by
    rw [added, bound, List.map_append, List.map_replicate]
  have gate := (filled.standing.gathering_of_pending still).1.gate
  let complete := full.step backend .markAllSubscribed
  obtain ⟨_, subscribed⟩ := filled.step backend .markAllSubscribed
  obtain ⟨_, requested⟩ := subscribed.step backend .request
  have ready : complete.transaction.Ready :=
    ⟨rfl, (List.length_map _).trans counted, gate, still⟩
  have same : complete.transaction.attendance = full.transaction.attendance.subscribeAll :=
    full.transaction.attendance_markAllSubscribed
  have committed := committed_of_ready obliging requested ready List.getElem?_concat_length
    ((congrArg Attendance.statements same).trans all)
  refine ⟨additions ++ [.markAllSubscribed, .request, .poll complete.requests.length], ?_⟩
  rw [run_append, reached]
  exact committed

/-- Over a backend which obliges, a pending transaction can still be committed exactly if
its statements are bound and not too many. -/
theorem committable_iff (obliging : backend.Obliging)
    (coherent : scene.Coherent callback current)
    (pending : scene.transaction.state = .pending) :
    (∃ later, (⟨.commit, .ok ()⟩ : Answered) ∈ answers (scene.run backend later).exchanges) ↔
      scene.transaction.members.length ≤ scene.transaction.expected ∧
        ∃ statements : List Statement,
          scene.transaction.members.map (·.statement) = statements.map .ok := by
  constructor
  · rintro ⟨later, committed⟩
    obtain ⟨_, _, after⟩ := coherent.run backend later
    obtain ⟨counted, statements, bound⟩ := after.standing.complete_of_commit committed
    have grows := scene.grows_run backend later
    have earlier : scene.transaction.members.map Member.statement <+:
        statements.map Except.ok := by
      rw [← bound, Transaction.statements_ledger]
      exact grows.statements
    constructor
    · calc scene.transaction.members.length
          = (scene.transaction.members.map Member.statement).length := (List.length_map _).symm
        _ ≤ (statements.map Except.ok).length := earlier.length_le
        _ = (scene.run backend later).transaction.ledger.lines.length := by
          rw [← bound, Ledger.statements, List.length_map]
        _ = (scene.run backend later).transaction.expected := counted
        _ = scene.transaction.expected := grows.created
    · refine ⟨statements.take (scene.transaction.members.map Member.statement).length, ?_⟩
      rw [List.map_take]
      exact List.prefix_iff_eq_take.mp earlier
  · rintro ⟨room, statements, bound⟩
    exact exists_commit obliging coherent pending room bound

end Scene

end NamedSql
