import NamedSql.Proofs.Transaction.Standing
import Mathlib.Data.List.Infix

/-!
# What a run calls

At any time, a run has called the first operations of some course.  Hence it acquires
and commits at most once, and it executes the statements of its transaction in order,
all of them before it commits.
-/

namespace NamedSql

/-! ## Operations and the statements which they execute -/

/-- A statement as a connection executes it: its kind, its text and its values. -/
abbrev Command := StatementKind × String × List SqlValue

/-- The command which executes a statement. -/
def Statement.command (statement : Statement) : Command :=
  (statement.kind, statement.sql, statement.values)

/-- The commands which an operation executes, in order. -/
def Operation.commands : Operation → List Command
  | .query sql values => [(.query, sql, values)]
  | .update sql values => [(.update, sql, values)]
  | .batch sql rows => rows.map fun values => (.update, sql, values)
  | .acquire | .autoCommit _ | .commit | .rollback | .close => []

theorem Statement.commands_operation (statement : Statement) :
    statement.operation.commands = [statement.command] := by
  rcases statement with ⟨method, _ | _, query, values⟩ <;> rfl

theorem Statement.sameBatch_iff (first second : Statement) :
    first.sameBatch second = true ↔ first.kind = .update ∧ second.kind = .update ∧
      first.query.sameShape second.query = true := by
  simp [sameBatch, and_assoc]

theorem Query.sql_of_sameShape {first second : Query} (same : first.sameShape second = true) :
    first.sql = second.sql := by
  simp only [sameShape, Bool.and_eq_true, beq_iff_eq] at same
  exact same.1

/-- An entry of statements which share a batch executes just them. -/
theorem commands_entryOperation {entry : BoundEntry}
    (shared : ∀ other ∈ entry.others, entry.first.2.sameBatch other.2 = true) :
    (entryOperation entry).commands = entry.statements.map (·.2.command) := by
  rcases entry with ⟨first, _ | ⟨second, others⟩⟩
  · exact first.2.commands_operation
  · have batched : ∀ statement ∈ first :: second :: others,
        statement.2.command = (.update, first.2.sql, statement.2.values) := by
      intro statement member
      rcases List.mem_cons.mp member with rfl | other
      · obtain ⟨update, -, -⟩ :=
          (Statement.sameBatch_iff _ _).mp (shared second List.mem_cons_self)
        rw [Statement.command, update]
      · obtain ⟨-, update, shape⟩ := (Statement.sameBatch_iff _ _).mp (shared statement other)
        rw [Statement.command, update, Statement.sql, ← Query.sql_of_sameShape shape]
        rfl
    rw [entryOperation, Operation.commands, List.map_map]
    exact List.map_congr_left fun statement member => (batched statement member).symm

/-- Every entry executes something. -/
theorem commands_entryOperation_ne_nil (entry : BoundEntry) :
    (entryOperation entry).commands ≠ [] := by
  rcases entry with ⟨first, _ | ⟨second, others⟩⟩
  · rw [entryOperation, Statement.commands_operation]
    exact List.cons_ne_nil _ _
  · exact List.cons_ne_nil _ _

theorem entryOperation_ne {operation : Operation} (silent : operation.commands = [])
    (entry : BoundEntry) : entryOperation entry ≠ operation := by
  rintro rfl
  exact commands_entryOperation_ne_nil entry silent

/-! ## The operations of a course -/

namespace Course

variable {entries : List BoundEntry}

/-- The operations of a course, in order. -/
def operations (course : Course entries) : List Operation :=
  course.trace.map (·.operation)

/-- The operations which execute entries, up to the first which fails. -/
def executed (course : Course entries) : List Operation :=
  match course.start with
  | .error _ => []
  | .ok () => (Attempt.upToFailure course.attempts).map fun attempt => entryOperation attempt.entry

theorem map_entryOperation (course : Course entries) :
    (course.attempts.map fun attempt => entryOperation attempt.entry) =
      entries.map entryOperation := by
  rcases course with ⟨_, _, attempts, rfl, _, _, _, _⟩
  rw [List.map_map]
  rfl

theorem executed_prefix (course : Course entries) :
    course.executed <+: entries.map entryOperation := by
  rw [executed]
  split
  · exact List.nil_prefix
  · rw [← course.map_entryOperation]
    exact (Attempt.upToFailure_prefix course.attempts).map _

/-- The operations of the work are those which execute entries and, if all of them were
executed, the commit. -/
theorem map_operation_work (course : Course entries) :
    ∃ commits, course.work.map (·.operation) =
        .autoCommit false :: (course.executed ++ commits) ∧
      (commits = [] ∨ commits = [.commit] ∧ course.executed = entries.map entryOperation) := by
  cases start : course.start with
  | error error =>
      refine ⟨[], ?_, .inl rfl⟩
      simp only [work, executed, start, List.map_cons, List.map_nil, List.append_nil]
  | ok _ =>
      by_cases failed : (course.attempts.findSome? Attempt.failure).isSome = true
      · refine ⟨[], ?_, .inl rfl⟩
        simp only [work, executed, start, if_pos failed, List.map_cons, List.append_nil, List.map_map]
        rfl
      · refine ⟨[.commit], ?_, .inr ⟨rfl, ?_⟩⟩
        · simp only [work, executed, start, if_neg failed, List.map_cons, List.map_append,
            List.map_map]
          rfl
        · rw [Option.not_isSome_iff_eq_none, List.findSome?_eq_none_iff] at failed
          simp only [executed, start]
          rw [Attempt.upToFailure_eq_self failed, course.map_entryOperation]

/-- A course which got a connection works, cleans up and releases the connection. -/
theorem operations_eq (course : Course entries) :
    course.operations = [.acquire] ∨
      ∃ commits undo, course.operations = .acquire :: .autoCommit false ::
          (course.executed ++ (commits ++ (undo ++ [.autoCommit true, .close]))) ∧
        (commits = [] ∨ commits = [.commit] ∧ course.executed = entries.map entryOperation) ∧
        (undo = [] ∨ undo = [.rollback]) := by
  cases acquired : course.acquire with
  | error error =>
      left
      simp only [operations, trace, acquired, List.map_cons, List.map_nil]
  | ok _ =>
      obtain ⟨commits, work, commit⟩ := course.map_operation_work
      right
      refine ⟨commits, course.undo.map (·.operation), ?_, commit, ?_⟩
      · rw [operations, trace_of_acquired acquired, List.map_cons, List.map_append,
          List.map_append, work]
        simp
      · rw [undo]
        split
        · exact .inr rfl
        · exact .inl rfl

theorem operations_cons (course : Course entries) :
    ∃ rest, course.operations = .acquire :: rest := by
  rcases course.operations_eq with operations | ⟨_, _, operations, -, -⟩
  · exact ⟨[], operations⟩
  · exact ⟨_, operations⟩

/-- An operation which executes nothing is not among those which execute entries. -/
theorem not_mem_executed (course : Course entries) (operation : Operation)
    (silent : operation.commands = []) : operation ∉ course.executed := by
  intro member
  obtain ⟨entry, -, same⟩ := List.mem_map.mp (course.executed_prefix.subset member)
  exact entryOperation_ne silent entry same

/-- A course acquires once. -/
theorem count_acquire (course : Course entries) : course.operations.count .acquire ≤ 1 := by
  have executed := List.count_eq_zero.mpr (course.not_mem_executed .acquire rfl)
  rcases course.operations_eq with operations | ⟨_, _, operations, ⟨rfl⟩ | ⟨rfl, -⟩, rfl | rfl⟩ <;>
    simp [operations, executed]

/-- A course commits at most once. -/
theorem count_commit (course : Course entries) : course.operations.count .commit ≤ 1 := by
  have executed := List.count_eq_zero.mpr (course.not_mem_executed .commit rfl)
  rcases course.operations_eq with operations | ⟨_, _, operations, ⟨rfl⟩ | ⟨rfl, -⟩, rfl | rfl⟩ <;>
    simp [operations, executed]

/-- The operations of a course execute entries in order, and nothing else. -/
theorem commands_operations (course : Course entries) :
    course.operations.flatMap Operation.commands <+:
      (entries.map entryOperation).flatMap Operation.commands := by
  rcases course.operations_eq with operations | ⟨_, _, operations, ⟨rfl⟩ | ⟨rfl, -⟩, rfl | rfl⟩
  · rw [operations]
    exact List.nil_prefix
  all_goals
    have executed := course.executed_prefix.flatMap Operation.commands
    simpa [operations, Operation.commands] using executed

/-- Whoever has called a commit has executed all entries before. -/
theorem executed_of_commit {course : Course entries} {calls : List Operation}
    (called : calls <+: course.operations) (commit : .commit ∈ calls) :
    (entries.map entryOperation).flatMap Operation.commands <+:
      calls.flatMap Operation.commands := by
  rcases course.operations_eq with operations | ⟨commits, undo, operations, commits?, undo?⟩
  · rw [operations] at called
    simpa using called.subset commit
  · have before : [.acquire, .autoCommit false] ++ course.executed <+: course.operations :=
      ⟨commits ++ (undo ++ [.autoCommit true, .close]), by rw [operations]; simp⟩
    have executed : [.acquire, .autoCommit false] ++ course.executed <+: calls := by
      refine (List.prefix_or_prefix_of_prefix called before).resolve_left fun earlier => ?_
      have := earlier.subset commit
      simp [course.not_mem_executed .commit rfl] at this
    have committed : course.executed = entries.map entryOperation := by
      rcases commits? with rfl | ⟨-, all⟩
      · have := operations ▸ called.subset commit
        rcases undo? with rfl | rfl <;> simp [course.not_mem_executed .commit rfl] at this
      · exact all
    have prefixed := executed.flatMap Operation.commands
    rw [committed] at prefixed
    simpa [Operation.commands] using prefixed

end Course

namespace Course

variable {entries : List BoundEntry}

/-- A commit which succeeds is part of the work. -/
theorem mem_work_of_mem_trace {course : Course entries}
    (committed : (⟨.commit, .ok ()⟩ : Answered) ∈ course.trace) :
    course.acquire = .ok () ∧ (⟨.commit, .ok ()⟩ : Answered) ∈ course.work := by
  cases acquired : course.acquire with
  | error error => simp [trace, acquired] at committed
  | ok _ =>
      constructor
      · rfl
      · rw [trace_of_acquired acquired, undo] at committed
        split at committed <;> simpa using committed

/-- A course has no failure exactly if its commit was issued and succeeded. -/
theorem failure_eq_none_iff (course : Course entries) :
    course.failure = none ↔ (⟨.commit, .ok ()⟩ : Answered) ∈ course.trace := by
  constructor
  · intro succeeded
    obtain ⟨acquired, started, attempts, committed⟩ := course.failure_eq_none.mp succeeded
    rw [trace_of_acquired acquired, work]
    simp [started, List.findSome?_eq_none_iff.mpr attempts, committed]
  · intro committed
    obtain ⟨acquired, worked⟩ := mem_work_of_mem_trace committed
    apply course.failure_eq_none.mpr
    cases started : course.start with
    | error error => simp [work, started] at worked
    | ok _ =>
        have unexecuted : (⟨.commit, .ok ()⟩ : Answered) ∉
            (Attempt.upToFailure course.attempts).map Attempt.answered := by
          intro executed
          obtain ⟨attempt, -, same⟩ := List.mem_map.mp executed
          exact entryOperation_ne rfl attempt.entry (congrArg Answered.operation same)
        cases failed : course.attempts.findSome? Attempt.failure with
        | some error => simp [work, started, failed, unexecuted] at worked
        | none =>
            have committed : .ok () = course.commit := by
              simpa [work, started, failed, unexecuted] using worked
            exact ⟨acquired, rfl, List.findSome?_eq_none_iff.mp failed, committed.symm⟩

end Course

/-- An execution succeeds exactly if it committed. -/
theorem Concluded.committed_iff {statements : List (Except SharedError Statement)}
    {exchanges : List Exchange} {outcome : Except SharedError Unit} {outputs : List Output}
    (concluded : Concluded statements exchanges outcome outputs) :
    outcome = .ok () ↔ (⟨.commit, .ok ()⟩ : Answered) ∈ Exchange.answers exchanges := by
  cases concluded with
  | unbound _ silent => simp [silent]
  | conducted _ course answered _ decides =>
      rw [answered, ← course.failure_eq_none_iff, show course.failure = _ from decides]
      cases outcome <;> simp [error?]

/-! ## The calls of a transaction -/

/-- The operation which a phase waits for is the next one of some course. -/
theorem Phase.Reached.operations {entries : List BoundEntry} {log : List Answered}
    {outputs : List Output} {phase : Phase} (reached : phase.Reached entries log outputs) :
    ∃ course : Course entries,
      log.map (·.operation) ++ [phase.operation] <+: course.operations := by
  cases phase with
  | acquire planned =>
      obtain ⟨rfl, rfl, rfl⟩ := reached
      exact ⟨.refused planned .serialize, List.prefix_rfl⟩
  | start planned =>
      obtain ⟨rfl, rfl, rfl⟩ := reached
      exact ⟨.unstarted planned .serialize, ⟨_, rfl⟩⟩
  | execute entry rest =>
      obtain ⟨done, succeeded, covers, rfl, rfl⟩ := reached
      have failure : (Attempt.unasked entry).failure = some .serialize := rfl
      have covered : done.map Attempt.entry ++ (Attempt.unasked entry).entry :: rest = entries :=
        covers
      have work := Course.work_broken succeeded failure covered
      refine ⟨.broken done (.unasked entry) rest covered,
        (Course.broken done _ rest covered).undo.map (·.operation) ++ [.autoCommit true, .close], ?_⟩
      rw [Course.operations, Course.trace_of_acquired rfl, work]
      simp [opening, Attempt.answered, Attempt.unasked, Phase.operation]
  | commit =>
      obtain ⟨done, succeeded, covers, rfl, rfl⟩ := reached
      rw [List.append_nil] at covers
      have work := Course.work_through succeeded covers (.ok ())
      refine ⟨.through done covers (.ok ()),
        (Course.through done covers (.ok ())).undo.map (·.operation) ++ [.autoCommit true, .close], ?_⟩
      rw [Course.operations, Course.trace_of_acquired rfl, work]
      simp [opening, Phase.operation]
  | rollback cause =>
      obtain ⟨course, acquired, decides, rfl, rfl⟩ := reached
      have undo : course.undo = [⟨.rollback, course.rollback⟩] := by
        rw [Course.undo, show course.failure = some cause.error from decides]
        rfl
      refine ⟨course, [.autoCommit true, .close], ?_⟩
      rw [Course.operations, Course.trace_of_acquired acquired, undo]
      simp [Phase.operation]
  | restore outcome =>
      obtain ⟨course, acquired, decides, rfl, rfl⟩ := reached
      refine ⟨course, [.close], ?_⟩
      rw [Course.operations, Course.trace_of_acquired acquired]
      simp [Phase.operation]
  | close outcome =>
      obtain ⟨course, acquired, decides, rfl, rfl⟩ := reached
      refine ⟨course, [], ?_⟩
      rw [Course.operations, Course.trace_of_acquired acquired]
      simp [Phase.operation]

/-- The entries of a plan execute its statements in order. -/
theorem commands_of_planOf {statements : List (Except SharedError Statement)}
    {entries : List BoundEntry} (planned : planOf statements = .ok entries) :
    (entries.map entryOperation).flatMap Operation.commands =
      ((entries.flatMap Entry.statements).map Prod.snd).map Statement.command := by
  rw [List.flatMap_map, List.map_map, List.map_flatMap]
  exact List.flatMap_congr fun entry member =>
    commands_entryOperation (sameBatch_of_planOf planned member)

namespace Ledger

variable {ledger : Ledger} {exchanges : List Exchange} {callback : Option String}
  {current : Option Run}

/-- Everything which was called belongs to a course of the statements which were added. -/
theorem Standing.calls (standing : ledger.Standing exchanges callback current) :
    Exchange.calls exchanges = [] ∨
      ∃ (entries : List BoundEntry) (course : Course entries),
        planOf ledger.statements = .ok entries ∧ Exchange.calls exchanges <+: course.operations ∧
        ledger.lines.length = ledger.expected ∧ ledger.state ≠ .pending := by
  cases standing with
  | gathering _ silent _ => exact .inl (by rw [silent]; rfl)
  | underway underway _ =>
      obtain ⟨course, reached⟩ := underway.reached.operations
      refine .inr ⟨_, course, underway.planned, ?_, underway.length, ?_⟩
      · rw [underway.calls]
        split
        · rw [List.append_nil]
          exact (List.prefix_append _ _).trans reached
        · exact reached
      · rw [underway.state]
        exact nofun
  | settled settled =>
      cases settled.concluded with
      | unbound _ silent => exact .inl (by rw [silent]; rfl)
      | conducted planned course _ called _ =>
          refine .inr ⟨_, course, planned, called ▸ List.prefix_rfl, settled.length, ?_⟩
          rw [settled.state]
          exact Ledger.finalState_ne_pending _

theorem Standing.count_acquire (standing : ledger.Standing exchanges callback current) :
    (Exchange.calls exchanges).count .acquire ≤ 1 := by
  rcases standing.calls with silent | ⟨_, course, _, called, _, _⟩
  · rw [silent]
    exact Nat.zero_le 1
  · exact (called.sublist.count_le .acquire).trans course.count_acquire

theorem Standing.count_commit (standing : ledger.Standing exchanges callback current) :
    (Exchange.calls exchanges).count .commit ≤ 1 := by
  rcases standing.calls with silent | ⟨_, course, _, called, _, _⟩
  · rw [silent]
    exact Nat.zero_le 1
  · exact (called.sublist.count_le .commit).trans course.count_commit

/-- Nothing is called before a connection is acquired. -/
theorem Standing.head?_calls (standing : ledger.Standing exchanges callback current)
    (called : Exchange.calls exchanges ≠ []) :
    (Exchange.calls exchanges).head? = some .acquire := by
  rcases standing.calls with silent | ⟨_, course, _, prefixed, _, _⟩
  · exact absurd silent called
  · obtain ⟨rest, operations⟩ := course.operations_cons
    rw [operations, List.prefix_cons_iff] at prefixed
    rcases prefixed with silent | ⟨_, same, _⟩
    · exact absurd silent called
    · rw [same, List.head?_cons]

/-- The statements of a transaction which has called something are bound, and they are
executed in order, all of them before a commit. -/
theorem Standing.commands (standing : ledger.Standing exchanges callback current)
    (called : Exchange.calls exchanges ≠ []) :
    ∃ statements : List Statement, ledger.statements = statements.map .ok ∧
      (Exchange.calls exchanges).flatMap Operation.commands <+:
        statements.map Statement.command ∧
      (.commit ∈ Exchange.calls exchanges →
        (Exchange.calls exchanges).flatMap Operation.commands =
          statements.map Statement.command) := by
  rcases standing.calls with silent | ⟨entries, course, planned, prefixed, _, _⟩
  · exact absurd silent called
  · have executed :=
      (prefixed.flatMap Operation.commands).trans course.commands_operations
    have commands := commands_of_planOf planned
    refine ⟨(entries.flatMap Entry.statements).map Prod.snd, bound_of_planOf planned, ?_, ?_⟩
    · exact commands ▸ executed
    · intro commit
      have all := Course.executed_of_commit prefixed commit
      exact commands ▸ executed.eq_of_length_le all.length_le

/-- A transaction which commits has the number of statements for which it was created,
and all of them are bound. -/
theorem Standing.complete_of_commit (standing : ledger.Standing exchanges callback current)
    (committed : (⟨.commit, .ok ()⟩ : Answered) ∈ Exchange.answers exchanges) :
    ledger.lines.length = ledger.expected ∧
      ∃ statements : List Statement, ledger.statements = statements.map .ok := by
  cases standing with
  | gathering _ silent _ =>
      rw [silent] at committed
      cases committed
  | underway underway _ => exact ⟨underway.length, _, bound_of_planOf underway.planned⟩
  | settled settled =>
      constructor
      · exact settled.length
      · cases settled.concluded with
        | unbound _ silent =>
            rw [silent] at committed
            cases committed
        | conducted planned _ _ _ _ => exact ⟨_, bound_of_planOf planned⟩

end Ledger

end NamedSql
