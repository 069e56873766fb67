import NamedSql.Transaction.Run
import NamedSql.Proofs.Exchange
import NamedSql.Proofs.Plan
import Mathlib.Data.List.TakeWhile

/-!
# The course of a run

A course assigns an answer to every operation which a run of some entries may
need.  It fixes the trace of the run: the operations which are issued and how
they are answered, up to the first failure and through the cleanup.  The phases
of a run are the stages of such a trace.
-/

namespace NamedSql

/-! ## Entries and their answers -/

/-- An entry with the answer of the connection. -/
structure Attempt where
  entry : BoundEntry
  answer : Except Error (entryOperation entry).Answer

namespace Attempt

/-- The operation which executes the entry, with its answer. -/
def answered (attempt : Attempt) : Answered :=
  ⟨entryOperation attempt.entry, attempt.answer⟩

/-- What the connection returned for the statements of the entry. -/
def outputs (attempt : Attempt) : List Output :=
  match attempt.answer with
  | .ok answer => (entryOperation attempt.entry).outputs answer
  | .error _ => []

/-- Why the entry failed: its operation did, or the number of its results is not
the number of its statements. -/
def failure (attempt : Attempt) : Option Error :=
  match attempt.answer with
  | .error error => some error
  | .ok answer =>
    let actual := ((entryOperation attempt.entry).outputs answer).length
    if actual ≠ attempt.entry.statements.length then
      some (.batchResult attempt.entry.statements.length actual)
    else none

/-- An entry which the run does not come to; its answer is of no interest. -/
def unasked (entry : BoundEntry) : Attempt :=
  ⟨entry, .error .serialize⟩

/-- The attempts up to and including the first which fails. -/
def upToFailure : List Attempt → List Attempt
  | [] => []
  | attempt :: rest =>
    if attempt.failure.isSome then [attempt] else attempt :: upToFailure rest

theorem upToFailure_prefix (attempts : List Attempt) : upToFailure attempts <+: attempts := by
  induction attempts with
  | nil => exact List.prefix_rfl
  | cons attempt rest inductionHypothesis =>
      rw [upToFailure]
      split
      · exact List.prefix_append [attempt] rest
      · exact (List.prefix_cons_inj attempt).mpr inductionHypothesis

theorem upToFailure_append {done : List Attempt} (succeeded : ∀ a ∈ done, a.failure = none)
    (rest : List Attempt) : upToFailure (done ++ rest) = done ++ upToFailure rest := by
  induction done with
  | nil => rfl
  | cons attempt done inductionHypothesis =>
      have first := succeeded attempt List.mem_cons_self
      have others := inductionHypothesis fun a member =>
        succeeded a (List.mem_cons_of_mem attempt member)
      simp [upToFailure, first, others]

theorem upToFailure_eq_self {done : List Attempt} (succeeded : ∀ a ∈ done, a.failure = none) :
    upToFailure done = done := by
  simpa [upToFailure] using upToFailure_append succeeded []

theorem findSome?_failure_append {done : List Attempt}
    (succeeded : ∀ a ∈ done, a.failure = none) (rest : List Attempt) :
    (done ++ rest).findSome? failure = rest.findSome? failure := by
  rw [List.findSome?_append, List.findSome?_eq_none_iff.mpr succeeded, Option.none_or]

/-- An entry which did not fail has one output for each of its statements. -/
theorem length_outputs {attempt : Attempt} (succeeded : attempt.failure = none) :
    attempt.outputs.length = attempt.entry.statements.length := by
  rcases attempt with ⟨entry, error | answer⟩
  · cases succeeded
  · by_contra unequal
    simp only [failure, outputs] at succeeded unequal
    rw [if_pos unequal] at succeeded
    cases succeeded

/-- Entries which did not fail have one output for each of their statements. -/
theorem length_flatMap_outputs {done : List Attempt}
    (succeeded : ∀ attempt ∈ done, attempt.failure = none) :
    (done.flatMap outputs).length = ((done.map entry).flatMap Entry.statements).length := by
  induction done with
  | nil => rfl
  | cons attempt done inductionHypothesis =>
      have first := length_outputs (succeeded attempt List.mem_cons_self)
      have others := inductionHypothesis fun a member =>
        succeeded a (List.mem_cons_of_mem attempt member)
      rw [List.flatMap_cons, List.length_append, first, others, List.map_cons,
        List.flatMap_cons, List.length_append]

end Attempt

/-! ## Courses -/

/-- The answers to everything which a run of the given entries may ask. -/
structure Course (entries : List BoundEntry) where
  acquire : Except Error Unit := .ok ()
  /-- Switching automatic commits off. -/
  start : Except Error Unit := .ok ()
  attempts : List Attempt
  covers : attempts.map Attempt.entry = entries
  commit : Except Error Unit := .ok ()
  rollback : Except Error Unit := .ok ()
  /-- Switching automatic commits on again. -/
  restore : Except Error Unit := .ok ()
  close : Except Error Unit := .ok ()

namespace Course

variable {entries : List BoundEntry}

/-- The first failure which is not one of the cleanup. -/
def failure (course : Course entries) : Option Error :=
  (failure? course.acquire).or <| (failure? course.start).or <|
    (course.attempts.findSome? Attempt.failure).or (failure? course.commit)

/-- What is issued between acquiring the connection and the cleanup. -/
def work (course : Course entries) : List Answered :=
  ⟨.autoCommit false, course.start⟩ ::
    match course.start with
    | .error _ => []
    | .ok () =>
      (Attempt.upToFailure course.attempts).map Attempt.answered ++
        if (course.attempts.findSome? Attempt.failure).isSome then []
        else [⟨.commit, course.commit⟩]

/-- The rollback, which is only issued after a failure. -/
def undo (course : Course entries) : List Answered :=
  if course.failure.isSome then [⟨.rollback, course.rollback⟩] else []

/-- All operations which are issued, in order, with their answers. -/
def trace (course : Course entries) : List Answered :=
  ⟨.acquire, course.acquire⟩ ::
    match course.acquire with
    | .error _ => []
    | .ok () =>
      course.work ++ course.undo ++ [⟨.autoCommit true, course.restore⟩, ⟨.close, course.close⟩]

/-- What the connection returned for the statements, up to the first entry which
failed. -/
def outputs (course : Course entries) : List Output :=
  match course.start with
  | .error _ => []
  | .ok () => (course.attempts.takeWhile (·.failure.isNone)).flatMap Attempt.outputs

/-- The result of the course, whatever the identity of its error. -/
def Decides (course : Course entries) (outcome : Except SharedError Unit) : Prop :=
  course.failure = (error? outcome).map SharedError.error

theorem trace_of_acquired {course : Course entries} (acquired : course.acquire = .ok ()) :
    course.trace = ⟨.acquire, .ok ()⟩ ::
      (course.work ++ course.undo ++
        [⟨.autoCommit true, course.restore⟩, ⟨.close, course.close⟩]) := by
  simp only [trace, acquired]

theorem failure?_eq_none_iff (answer : Except Error Unit) :
    failure? answer = none ↔ answer = .ok () := by
  cases answer <;> simp [failure?]

theorem failure_eq_none (course : Course entries) :
    course.failure = none ↔ course.acquire = .ok () ∧ course.start = .ok () ∧
      (∀ attempt ∈ course.attempts, attempt.failure = none) ∧ course.commit = .ok () := by
  simp only [failure, Option.or_eq_none_iff, failure?_eq_none_iff, List.findSome?_eq_none_iff]

theorem outputs_of_succeeded {course : Course entries} (succeeded : course.failure = none) :
    course.outputs = course.attempts.flatMap Attempt.outputs := by
  obtain ⟨-, started, attempts, -⟩ := course.failure_eq_none.mp succeeded
  have all : ∀ attempt ∈ course.attempts, attempt.failure.isNone = true := by
    simpa using attempts
  simp only [outputs, started, List.takeWhile_eq_self_iff.mpr all]

/-- A course without failure returned one output for every statement. -/
theorem length_outputs_of_succeeded {course : Course entries} (succeeded : course.failure = none) :
    course.outputs.length = (entries.flatMap Entry.statements).length := by
  obtain ⟨-, -, attempts, -⟩ := course.failure_eq_none.mp succeeded
  rw [outputs_of_succeeded succeeded, Attempt.length_flatMap_outputs attempts, course.covers]

/-! ## The ends which a course can have -/

theorem map_entry_unasked (entries : List BoundEntry) :
    (entries.map Attempt.unasked).map Attempt.entry = entries := by
  simp [Function.comp_def, Attempt.unasked]

/-- No connection could be acquired. -/
def refused (entries : List BoundEntry) (error : Error) : Course entries where
  acquire := .error error
  attempts := entries.map Attempt.unasked
  covers := map_entry_unasked entries

/-- Automatic commits could not be switched off. -/
def unstarted (entries : List BoundEntry) (error : Error) : Course entries where
  start := .error error
  attempts := entries.map Attempt.unasked
  covers := map_entry_unasked entries

/-- An attempt failed after others had succeeded. -/
def broken (done : List Attempt) (failed : Attempt) (rest : List BoundEntry)
    (covers : done.map Attempt.entry ++ failed.entry :: rest = entries) : Course entries where
  attempts := done ++ failed :: rest.map Attempt.unasked
  covers := by rw [List.map_append, List.map_cons, map_entry_unasked, covers]

/-- All attempts succeeded, and the commit was answered. -/
def through (done : List Attempt) (covers : done.map Attempt.entry = entries)
    (commit : Except Error Unit) : Course entries where
  attempts := done
  covers := covers
  commit := commit

variable {done : List Attempt} {failed : Attempt} {rest : List BoundEntry} {error : Error}

theorem failure_broken (succeeded : ∀ attempt ∈ done, attempt.failure = none)
    (failure : failed.failure = some error)
    (covers : done.map Attempt.entry ++ failed.entry :: rest = entries) :
    (broken done failed rest covers).failure = some error := by
  simp [Course.failure, broken, failure?, Attempt.findSome?_failure_append succeeded, failure]

theorem work_broken (succeeded : ∀ attempt ∈ done, attempt.failure = none)
    (failure : failed.failure = some error)
    (covers : done.map Attempt.entry ++ failed.entry :: rest = entries) :
    (broken done failed rest covers).work =
      ⟨.autoCommit false, .ok ()⟩ :: (done.map Attempt.answered ++ [failed.answered]) := by
  simp [work, broken, Attempt.findSome?_failure_append succeeded,
    Attempt.upToFailure_append succeeded, Attempt.upToFailure, failure]

theorem outputs_broken (succeeded : ∀ attempt ∈ done, attempt.failure = none)
    (failure : failed.failure = some error)
    (covers : done.map Attempt.entry ++ failed.entry :: rest = entries) :
    (broken done failed rest covers).outputs = done.flatMap Attempt.outputs := by
  have all : ∀ attempt ∈ done, attempt.failure.isNone = true := by simpa using succeeded
  simp [outputs, broken, List.takeWhile_append_of_pos all, failure]

theorem failure_through (succeeded : ∀ attempt ∈ done, attempt.failure = none)
    (covers : done.map Attempt.entry = entries) (commit : Except Error Unit) :
    (through done covers commit).failure = failure? commit := by
  simp [Course.failure, through, failure?, List.findSome?_eq_none_iff.mpr succeeded]

theorem work_through (succeeded : ∀ attempt ∈ done, attempt.failure = none)
    (covers : done.map Attempt.entry = entries) (commit : Except Error Unit) :
    (through done covers commit).work =
      ⟨.autoCommit false, .ok ()⟩ :: (done.map Attempt.answered ++ [⟨.commit, commit⟩]) := by
  simp [work, through, Attempt.upToFailure_eq_self succeeded,
    List.findSome?_eq_none_iff.mpr succeeded]

theorem outputs_through (succeeded : ∀ attempt ∈ done, attempt.failure = none)
    (covers : done.map Attempt.entry = entries) (commit : Except Error Unit) :
    (through done covers commit).outputs = done.flatMap Attempt.outputs := by
  have all : ∀ attempt ∈ done, attempt.failure.isNone = true := by simpa using succeeded
  simp [outputs, through, List.takeWhile_eq_self_iff.mpr all]

end Course

end NamedSql
