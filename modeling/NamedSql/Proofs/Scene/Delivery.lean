import NamedSql.Proofs.Scene.Trace
import Mathlib.Data.List.Basic

/-!
# The delivery of outcomes

Every sink is told its outcome once: a statement which could not be bound when it is
added, and all others after the outcome of the transaction was decided.
-/

namespace NamedSql

/-! ## Counting notices -/

/-- Whether an event tells the sink of a statement its outcome. -/
def Event.isNoticeOf (id : Nat) : Event → Bool
  | .notified other _ _ => other == id
  | _ => false

/-- Events which are listed element by element are counted at their own element. -/
theorem countP_flatten_mapIdx {α : Type} {id : Nat} {events : Nat → α → List Event}
    (own : ∀ other element, other ≠ id → (events other element).countP (Event.isNoticeOf id) = 0)
    (elements : List α) :
    (elements.mapIdx events).flatten.countP (Event.isNoticeOf id) =
      elements[id]?.elim 0 fun element => (events id element).countP (Event.isNoticeOf id) := by
  induction elements using List.reverseRecOn with
  | nil => rfl
  | append_singleton elements element inductionHypothesis =>
      rw [List.mapIdx_concat, List.flatten_append, List.countP_append, inductionHypothesis,
        List.flatten_singleton]
      rcases Nat.lt_trichotomy id elements.length with earlier | rfl | later
      · rw [List.getElem?_append_left earlier, own _ _ (Nat.ne_of_gt earlier), Nat.add_zero]
      · rw [List.getElem?_concat_length, List.getElem?_eq_none le_rfl]
        exact Nat.zero_add _
      · have outside : (elements ++ [element]).length ≤ id := by
          rw [List.length_append, List.length_singleton]
          exact later
        rw [List.getElem?_eq_none outside, List.getElem?_eq_none (Nat.le_of_lt later),
          own _ _ (Nat.ne_of_lt later)]
        rfl

theorem countP_earlyNotices (statements : List (Except SharedError Statement)) (id : Nat) :
    (earlyNotices statements).countP (Event.isNoticeOf id) =
      statements[id]?.elim 0 fun statement => if (error? statement).isSome then 1 else 0 := by
  rw [earlyNotices, countP_flatten_mapIdx]
  · cases statements[id]? with
    | none => rfl
    | some statement => cases statement <;> simp [earlyNotice, Event.isNoticeOf, error?]
  · intro other statement different
    cases statement <;> simp [earlyNotice, Event.isNoticeOf, different]

theorem countP_failures (statements : List (Except SharedError Statement)) (error : SharedError)
    (id : Nat) :
    (failures statements error).countP (Event.isNoticeOf id) =
      statements[id]?.elim 0 fun statement => if (error? statement).isSome then 0 else 1 := by
  rw [failures, lateNotices, countP_flatten_mapIdx]
  · rw [List.getElem?_map]
    cases statements[id]? with
    | none => rfl
    | some statement =>
        cases statement <;> simp [Line.added, Event.isNoticeOf, error?]
  · intro other line different
    cases notified : line.notified <;> simp [Event.isNoticeOf, different]

theorem countP_completions (outputs : List Output) (id : Nat) :
    (completions outputs).countP (Event.isNoticeOf id) = outputs[id]?.elim 0 fun _ => 1 := by
  rw [completions, ← flatten_mapIdx_singleton, countP_flatten_mapIdx]
  · cases outputs[id]? <;> simp [Event.isNoticeOf]
  · intro other output different
    simp [Event.isNoticeOf, different]

/-! ## The results of a course -/

namespace Course

variable {entries : List BoundEntry}

/-- What the connection returned for each statement. -/
def results (course : Course entries) : List ((Nat × Statement) × Output) :=
  course.attempts.flatMap fun attempt => attempt.entry.statements.zip attempt.outputs

variable {course : Course entries}

end Course

namespace Ledger

variable {ledger : Ledger} {exchanges : List Exchange} {callback : Option String}
  {outcome : Except SharedError Unit} {outputs : List Output}

/-- In a settled transaction, every sink was told its outcome once. -/
theorem Settled.countP_notices (settled : ledger.Settled exchanges callback outcome outputs)
    {id : Nat} (inside : id < ledger.statements.length) :
    ledger.notices.countP (Event.isNoticeOf id) = 1 := by
  rw [settled.notices]
  cases outcome with
  | ok _ =>
      have full := settled.concluded.length_outputs
      rw [finalNotices, countP_completions, List.getElem?_eq_getElem (full ▸ inside)]
      rfl
  | error error =>
      have uncounted : (callbackNotice callback error).countP (Event.isNoticeOf id) = 0 := by
        cases callback <;> simp [callbackNotice, Event.isNoticeOf]
      rw [finalNotices, List.countP_append, List.countP_append, countP_earlyNotices,
        countP_failures, uncounted, List.getElem?_eq_getElem inside]
      cases ledger.statements[id] <;> rfl

end Ledger

namespace Scene

variable {σ : Type}

end Scene

end NamedSql
