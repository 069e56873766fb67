import NamedSql.Proofs.Transaction.Course

/-!
# The stages of a course

A phase of a run is a stage of a course: what was answered so far is the beginning
of a trace, and the outputs which were recorded are those of the entries executed
so far.  The answer to a phase leads to the next stage, and the answer to the last
one completes a course.
-/

namespace NamedSql

/-- The answers before the first entry. -/
def opening : List Answered :=
  [⟨.acquire, .ok ()⟩, ⟨.autoCommit false, .ok ()⟩]

/-- Some entries were executed, and the given ones are still to be. -/
def Remaining (entries rest : List BoundEntry) (log : List Answered) (outputs : List Output) :
    Prop :=
  ∃ done : List Attempt, (∀ attempt ∈ done, attempt.failure = none) ∧
    done.map Attempt.entry ++ rest = entries ∧
    log = opening ++ done.map Attempt.answered ∧ outputs = done.flatMap Attempt.outputs

/-- Work was done over an acquired connection, up to the cleanup, and its outcome
is decided.  The given part of the cleanup has followed. -/
def Worked (entries : List BoundEntry) (log : List Answered) (outputs : List Output)
    (outcome : Except SharedError Unit) (cleanup : Course entries → List Answered) : Prop :=
  ∃ course : Course entries, course.acquire = .ok () ∧ course.Decides outcome ∧
    log = ⟨.acquire, .ok ()⟩ :: (course.work ++ cleanup course) ∧ outputs = course.outputs

/-- The next entry has the numbers after those of the outputs so far. -/
theorem Remaining.numbers {entries rest : List BoundEntry} {entry : BoundEntry}
    {log : List Answered} {outputs : List Output} {count : Nat}
    (remaining : Remaining entries (entry :: rest) log outputs)
    (numbered : (entries.flatMap Entry.statements).map Prod.fst = List.range count) :
    entry.statements.map Prod.fst = List.range' outputs.length entry.statements.length := by
  obtain ⟨done, all, rfl, -, rfl⟩ := remaining
  rw [Attempt.length_flatMap_outputs all]
  rw [List.flatMap_append, List.flatMap_cons, List.map_append, List.map_append] at numbered
  generalize (done.map Attempt.entry).flatMap Entry.statements = before at numbered ⊢
  rw [List.range_eq_range'] at numbered
  obtain ⟨first, -, firstEq, restEq⟩ := List.range'_eq_append_iff.mp numbered.symm
  obtain ⟨own, -, ownEq, -⟩ := List.range'_eq_append_iff.mp restEq.symm
  have firstLength : before.length = first := by simpa using congrArg List.length firstEq
  have ownLength : entry.statements.length = own := by simpa using congrArg List.length ownEq
  rw [ownEq, firstLength, ownLength, Nat.zero_add, Nat.mul_one]

namespace Phase

/-- A phase is reached with what was answered so far and with what was recorded. -/
def Reached (entries : List BoundEntry) (log : List Answered) (outputs : List Output) :
    Phase → Prop
  | .acquire planned => planned = entries ∧ log = [] ∧ outputs = []
  | .start planned => planned = entries ∧ log = [⟨.acquire, .ok ()⟩] ∧ outputs = []
  | .execute entry rest => Remaining entries (entry :: rest) log outputs
  | .commit => Remaining entries [] log outputs
  | .rollback cause => Worked entries log outputs (.error cause) fun _ => []
  | .restore outcome => Worked entries log outputs outcome Course.undo
  | .close outcome =>
    Worked entries log outputs outcome fun course =>
      course.undo ++ [⟨.autoCommit true, course.restore⟩]

variable {entries planned rest : List BoundEntry} {entry : BoundEntry} {log : List Answered}
  {outputs : List Output} {cause : SharedError} {outcome : Except SharedError Unit}

theorem reached_next_iff :
    (Phase.next rest).Reached entries log outputs ↔ Remaining entries rest log outputs := by
  cases rest <;> rfl

/-! ## From one stage to the next -/

theorem Reached.started (reached : (Phase.acquire planned).Reached entries log outputs) :
    (Phase.start planned).Reached entries (log ++ [⟨.acquire, .ok ()⟩]) outputs := by
  obtain ⟨rfl, rfl, rfl⟩ := reached
  exact ⟨rfl, rfl, rfl⟩

theorem Reached.opened (reached : (Phase.start planned).Reached entries log outputs) :
    (Phase.next planned).Reached entries (log ++ [⟨.autoCommit false, .ok ()⟩]) outputs := by
  obtain ⟨rfl, rfl, rfl⟩ := reached
  exact reached_next_iff.mpr ⟨[], by simp, rfl, rfl, rfl⟩

theorem Reached.executed {answer : Except Error (entryOperation entry).Answer}
    (reached : (Phase.execute entry rest).Reached entries log outputs)
    (succeeded : (⟨entry, answer⟩ : Attempt).failure = none) :
    (Phase.next rest).Reached entries (log ++ [⟨entryOperation entry, answer⟩])
      (outputs ++ (⟨entry, answer⟩ : Attempt).outputs) := by
  obtain ⟨done, all, covers, rfl, rfl⟩ := reached
  refine reached_next_iff.mpr ⟨done ++ [⟨entry, answer⟩], ?_, ?_, ?_, ?_⟩
  · intro attempt member
    rcases List.mem_append.mp member with earlier | last
    · exact all attempt earlier
    · rw [List.mem_singleton.mp last]
      exact succeeded
  · simpa using covers
  · simp [Attempt.answered]
  · simp

theorem Reached.committed (reached : Phase.commit.Reached entries log outputs) :
    (Phase.restore (.ok ())).Reached entries (log ++ [⟨.commit, .ok ()⟩]) outputs := by
  obtain ⟨done, all, covers, rfl, rfl⟩ := reached
  rw [List.append_nil] at covers
  have failure := Course.failure_through all covers (.ok ())
  refine ⟨.through done covers (.ok ()), rfl, failure, ?_, ?_⟩
  · simp [Course.work_through all, Course.undo, failure, failure?, opening]
  · rw [Course.outputs_through all]

theorem Reached.rolledBack {answer : Except Error Unit}
    (reached : (Phase.rollback cause).Reached entries log outputs) :
    (Phase.restore (.error cause)).Reached entries (log ++ [⟨.rollback, answer⟩]) outputs := by
  obtain ⟨course, acquired, decides, rfl, rfl⟩ := reached
  have failure : course.failure = some cause.error := decides
  refine ⟨{ course with rollback := answer }, acquired, decides, ?_, rfl⟩
  have undone : ({ course with rollback := answer } : Course entries).undo =
      [⟨.rollback, answer⟩] := if_pos (by rw [Option.isSome_iff_exists]; exact ⟨_, failure⟩)
  rw [undone, List.append_nil]
  rfl

theorem Reached.restored {answer : Except Error Unit}
    (reached : (Phase.restore outcome).Reached entries log outputs) :
    (Phase.close outcome).Reached entries (log ++ [⟨.autoCommit true, answer⟩]) outputs := by
  obtain ⟨course, acquired, decides, rfl, rfl⟩ := reached
  refine ⟨{ course with restore := answer }, acquired, decides, ?_, rfl⟩
  rw [List.cons_append, List.append_assoc]
  rfl

/-! ## Failures -/

theorem Reached.unstarted {error : Error}
    (reached : (Phase.start planned).Reached entries log outputs) (caused : cause.error = error) :
    (Phase.rollback cause).Reached entries (log ++ [⟨.autoCommit false, .error error⟩])
      outputs := by
  obtain ⟨rfl, rfl, rfl⟩ := reached
  subst caused
  exact ⟨.unstarted planned cause.error, rfl, rfl, rfl, rfl⟩

theorem Reached.broken {answer : Except Error (entryOperation entry).Answer} {error : Error}
    (reached : (Phase.execute entry rest).Reached entries log outputs)
    (failed : (⟨entry, answer⟩ : Attempt).failure = some error) (caused : cause.error = error) :
    (Phase.rollback cause).Reached entries (log ++ [⟨entryOperation entry, answer⟩])
      outputs := by
  obtain ⟨done, all, covers, rfl, rfl⟩ := reached
  subst caused
  refine ⟨.broken done ⟨entry, answer⟩ rest covers, rfl,
    Course.failure_broken all failed covers, ?_, (Course.outputs_broken all failed covers).symm⟩
  simp [Course.work_broken all failed covers, opening, Attempt.answered]

theorem Reached.uncommitted {error : Error} (reached : Phase.commit.Reached entries log outputs)
    (caused : cause.error = error) :
    (Phase.rollback cause).Reached entries (log ++ [⟨.commit, .error error⟩]) outputs := by
  obtain ⟨done, all, covers, rfl, rfl⟩ := reached
  rw [List.append_nil] at covers
  subst caused
  refine ⟨.through done covers (.error cause.error), rfl, Course.failure_through all covers _,
    ?_, (Course.outputs_through all covers _).symm⟩
  simp [Course.work_through all, opening]

/-! ## Ends -/

theorem Reached.refused {error : Error}
    (reached : (Phase.acquire planned).Reached entries log outputs) :
    ∃ course : Course entries, log ++ [⟨.acquire, .error error⟩] = course.trace ∧
      course.failure = some error ∧ outputs = course.outputs := by
  obtain ⟨rfl, rfl, rfl⟩ := reached
  exact ⟨.refused planned error, rfl, rfl, by cases planned <;> rfl⟩

theorem Reached.closed {answer : Except Error Unit}
    (reached : (Phase.close outcome).Reached entries log outputs) :
    ∃ course : Course entries, log ++ [⟨.close, answer⟩] = course.trace ∧
      course.Decides outcome ∧ outputs = course.outputs := by
  obtain ⟨course, acquired, decides, rfl, rfl⟩ := reached
  refine ⟨{ course with close := answer }, ?_, decides, rfl⟩
  rw [Course.trace_of_acquired (show ({ course with close := answer } : Course entries).acquire =
    .ok () from acquired)]
  simp only [List.append_assoc, List.cons_append]
  rfl

end Phase

end NamedSql
