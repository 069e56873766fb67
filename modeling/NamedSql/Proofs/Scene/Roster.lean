import NamedSql.Proofs.Scene.Joining
import NamedSql.Proofs.Scene.Replies
import NamedSql.Proofs.Transaction.Executed

/-!
# The roster of a transaction

Statements are numbered in the order in which they are added, and exactly those are awaited which
are not subscribed, whoever subscribes them and how often.  Every action changes the attendance in
one of four plain ways, which is all that the register of statements depends on.  Which statements
were executed follows from where the transaction stands.
-/

namespace NamedSql

/-! ## What an action makes of the attendance -/

namespace Attendance

/-- The statements with their numbers, as they were added. -/
def roster (attendance : Attendance) : List (Nat × Except Error Statement) :=
  attendance.statements.mapIdx fun id statement => (id, statement.mapError SharedError.error)

/-- What an action which adds the given statements makes of an attendance, whatever becomes of the
shared execution. -/
inductive Evolves (before : Attendance) : List (Nat × Except Error Statement) → Attendance → Prop
  | kept (shared : Option SharedExecution) : Evolves before [] { before with shared := shared }
  | enrolled (statement : Except SharedError Statement) :
      Evolves before [(before.statements.length, statement.mapError SharedError.error)]
        (before.enroll statement)
  | subscribed (id : Nat) (shared : Option SharedExecution) :
      Evolves before [] { before.subscribe id with shared := shared }
  | subscribedAll : Evolves before [] before.subscribeAll

variable {before after : Attendance} {added : List (Nat × Except Error Statement)}

theorem Evolves.of_eq (same : after = before) : before.Evolves [] after := by
  rw [same]
  exact .kept before.shared

/-- What is added comes last in the roster. -/
theorem Evolves.roster (evolves : before.Evolves added after) :
    after.roster = before.roster ++ added := by
  cases evolves with
  | kept shared => exact (List.append_nil _).symm
  | enrolled statement => exact List.mapIdx_concat
  | subscribed id shared => exact (List.append_nil _).symm
  | subscribedAll => exact (List.append_nil _).symm

theorem Evolves.listed (evolves : before.Evolves added after) (listed : before.Listed) :
    after.Listed := by
  cases evolves with
  | kept shared => exact ⟨listed.distinct, listed.unsubscribed⟩
  | enrolled statement => exact listed.enroll statement
  | subscribed id shared =>
      have listed := listed.subscribe id
      exact ⟨listed.distinct, listed.unsubscribed⟩
  | subscribedAll => exact Listed.subscribeAll before

end Attendance

namespace Transaction

variable {t : Transaction} {expected : Nat}

theorem roster_attendance (t : Transaction) :
    t.attendance.roster =
      t.members.mapIdx fun id member => (id, member.statement.mapError SharedError.error) := by
  apply List.ext_getElem?
  intro index
  simp [Attendance.roster, attendance, Function.comp_def]

/-- If awaited statements are listed properly, exactly those are awaited which are not
subscribed. -/
theorem mem_awaiting_iff (sound : t.attendance.Sound expected) (listed : t.attendance.Listed)
    (id : Nat) :
    id ∈ t.awaiting ↔ ∃ member, t.members[id]? = some member ∧ member.subscribed = false := by
  have flag : t.attendance.subscribed[id]? = some false ↔
      ∃ member, t.members[id]? = some member ∧ member.subscribed = false := by
    rw [attendance, List.getElem?_map, Option.map_eq_some_iff]
  rw [← flag]
  exact ⟨listed.unsubscribed id, sound.awaited id⟩

/-- The first statements which the ledger shows as executed are the members which were. -/
theorem executed_iff_of_executes {count : Nat} (executes : t.ledger.Executes count) {id : Nat}
    {member : Member} (found : t.members[id]? = some member) :
    member.executed = true ↔ id < count := by
  apply executes id member.line
  rw [ledger, List.getElem?_map, found]
  rfl

end Transaction

/-! ## Additions -/

namespace Action

/-- The statement which an action is about to add. -/
def statement? : Action → Option (Except Error Statement)
  | .add statement .. | .participate statement => some statement
  | _ => none

end Action

namespace Scene

variable {σ : Type}

/-- The statement which an action adds, with the number which is replied. -/
def addition? (backend : Backend σ) (scene : Scene σ) (action : Action) :
    Option (Nat × Except Error Statement) :=
  match action.statement?, scene.reply backend action with
  | some statement, .added (.ok id) => some (id, statement)
  | _, _ => none

/-- The statements which actions add, with the numbers which are replied, one after another. -/
def additions (backend : Backend σ) (scene : Scene σ) (actions : List Action) :
    List (Nat × Except Error Statement) :=
  scene.gather backend (fun scene action => (scene.addition? backend action).toList) actions

variable (backend : Backend σ) (scene : Scene σ)

/-- An action which adds a statement enrolls it with the next number, or is refused. -/
theorem evolves_add {action : Action} {statement : Except Error Statement} (sink : Sink)
    (adds : action.statement? = some statement)
    (replied : scene.reply backend action =
      .added ((scene.transaction.add statement sink).map (·.1))) :
    scene.transaction.attendance.Evolves (scene.addition? backend action).toList
      (scene.register (scene.transaction.add statement sink)).transaction.attendance := by
  rw [addition?, adds, replied]
  cases added : scene.transaction.add statement sink with
  | error error => exact .of_eq rfl
  | ok result =>
      obtain ⟨id, after⟩ := result
      have kept := (scene.transaction.keeps_add added).attendance
      have number : id = scene.transaction.attendance.statements.length := by
        rw [Transaction.attendance, List.length_map]
        exact (Transaction.pending_of_add added).2
      have enrolled : scene.transaction.attendance.Evolves _ _ :=
        .enrolled (scene.transaction.identified statement)
      rw [Transaction.mapError_identified, ← number, ← Transaction.attendance_enroll _ _ sink,
        ← kept] at enrolled
      exact enrolled

/-- A participant subscribes its own statement at most. -/
theorem evolves_pollParticipant (t : Transaction) (id : Nat) (waker : Waker)
    (state : σ × List Exchange) :
    t.attendance.Evolves []
      (t.pollParticipant backend.recording id waker state).2.1.attendance := by
  obtain ⟨shared, polled | polled⟩ :=
    Transaction.exists_attendance_pollParticipant backend.recording t id waker state
  · rw [polled]
    exact .kept shared
  · rw [polled]
    exact .subscribed id shared

/-- Every action changes the attendance in one of the plain ways. -/
theorem evolves_step (action : Action) :
    scene.transaction.attendance.Evolves (scene.addition? backend action).toList
      (scene.step backend action).transaction.attendance := by
  cases action with
  | add statement name refuses => exact scene.evolves_add backend (.recorder name refuses) rfl rfl
  | participate statement => exact scene.evolves_add backend (.participant {}) rfl rfl
  | markSubscribed id =>
      rw [step, Transaction.attendance_markSubscribed]
      exact .subscribed id scene.transaction.shared
  | markAllSubscribed =>
      rw [step, Transaction.attendance_markAllSubscribed]
      exact .subscribedAll
  | onTransactionFailed callback => exact .of_eq rfl
  | request => exact .of_eq rfl
  | poll index =>
      apply Attendance.Evolves.of_eq
      simp only [step]
      split
      next execution _ => exact (scene.transaction.keeps_execute _ execution _).attendance
      next => rfl
  | drop index => exact .of_eq rfl
  | pollParticipant id waker =>
      simp only [step]
      split
      · exact evolves_pollParticipant backend scene.transaction id waker scene.backend
      · exact .of_eq rfl
  | dropParticipant id => exact .of_eq (scene.transaction.keeps_depart id).attendance

/-! ## The roster of a run -/

theorem roster_run (expected : Nat) (threshold : Duration) (state : σ) (actions : List Action) :
    ((initial expected threshold state).run backend actions).transaction.attendance.roster =
      (initial expected threshold state).additions backend actions := by
  refine invariant_gather backend
    (fun added scene => scene.transaction.attendance.roster = added) ?_ rfl actions
  intro added scene action same
  rw [(scene.evolves_step backend action).roster, same]

theorem listed_run {scene : Scene σ} (listed : scene.transaction.attendance.Listed)
    (actions : List Action) : (scene.run backend actions).transaction.attendance.Listed :=
  invariant_run backend (fun scene => scene.transaction.attendance.Listed)
    (fun scene action listed => (scene.evolves_step backend action).listed listed) listed actions

theorem listed_initial (expected : Nat) (threshold : Duration) (state : σ) :
    (initial expected threshold state).transaction.attendance.Listed := by
  refine ⟨List.nodup_nil, ?_⟩
  intro id none
  cases none

/-- The register of statements in every scene.  The numbers which are replied to additions count
the statements from 0, in the order in which they were added, whether they could be bound or not.
Awaited are, once each, exactly the statements which are not subscribed.  The subscription of a
statement is replied to with true exactly if it leaves none of the awaited statements.  No
statement is executed while the transaction is pending.  Those which were executed are the first
ones, as many as the first entries of the plan hold together; once the transaction is committed all
of them were, and all are subscribed. -/
theorem registry_consistent (expected : Nat) (threshold : Duration) (state : σ)
    (actions : List Action) :
    let t := ((initial expected threshold state).run backend actions).transaction
    (initial expected threshold state).additions backend actions =
      t.members.mapIdx (fun id member => (id, member.statement.mapError SharedError.error)) ∧
    t.awaiting.Nodup ∧
    (∀ id, id ∈ t.awaiting ↔ ∃ member, t.members[id]? = some member ∧ member.subscribed = false) ∧
    (∀ id, (t.markSubscribed id).1 = true ↔
      t.awaiting ≠ [] ∧ (t.markSubscribed id).2.awaiting = []) ∧
    (t.state = .pending → ∀ member ∈ t.members, member.executed = false) ∧
    (∃ done rest, plan sameBatchBound (numberedStatements t.members) = done ++ rest ∧
      ∀ id member, t.members[id]? = some member →
        (member.executed = true ↔ id < (done.flatMap Entry.statements).length)) ∧
    (t.state = .committed → ∀ member ∈ t.members,
      member.executed = true ∧ member.subscribed = true) := by
  intro t
  have sound : t.attendance.Sound expected := sound_run expected threshold state backend actions
  have listed : t.attendance.Listed :=
    listed_run backend (listed_initial expected threshold state) actions
  obtain ⟨callback, current, coherent⟩ := coherent_run expected threshold state backend actions
  obtain ⟨count, fills, executes, unexecuted, complete⟩ := coherent.standing.executes
  have executed {id : Nat} {member : Member} (found : t.members[id]? = some member) :
      member.executed = true ↔ id < count := Transaction.executed_iff_of_executes executes found
  refine ⟨?_, listed.distinct, Transaction.mem_awaiting_iff sound listed,
    t.markSubscribed_eq_true_iff, ?_, ?_, ?_⟩
  · rw [← t.roster_attendance]
    exact (roster_run backend expected threshold state actions).symm
  · intro pending member among
    obtain ⟨id, found⟩ := List.getElem?_of_mem among
    have none := executed found
    rw [unexecuted pending] at none
    simpa using none
  · rw [Transaction.statements_ledger, ← numberedStatements_eq] at fills
    obtain ⟨done, rest, divided, rfl⟩ := fills
    exact ⟨done, rest, divided, fun _ _ => executed⟩
  · intro committed member among
    obtain ⟨id, found⟩ := List.getElem?_of_mem among
    have begun : t.state ≠ .pending := by
      intro pending
      cases committed.symm.trans pending
    have length : t.ledger.lines.length = t.members.length := List.length_map _
    constructor
    · rw [executed found, complete committed, length]
      exact (List.getElem?_eq_some_iff.mp found).1
    · exact sound.subscribed_of_awaiting (coherent.closed begun) _ (List.mem_map_of_mem among)

end Scene

end NamedSql
