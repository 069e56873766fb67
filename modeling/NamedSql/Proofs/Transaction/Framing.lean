import NamedSql.Proofs.Transaction.Progress

/-!
# What an execution respects

An execution changes a transaction in small ways, one after the other.  A relation which each of
them respects therefore holds between the transaction before and after every poll.
-/

namespace NamedSql

/-- The waker which is woken by an event. -/
def Event.waker? : Event → Option Waker
  | .woken waker => some waker
  | _ => none

namespace Transaction

/-- A relation is respected by everything which an execution does to a transaction.  Executions
themselves wake nobody who waits for one to start. -/
structure Framing (related : Transaction → Transaction → Prop) : Prop where
  refl : ∀ t, related t t
  trans : ∀ {t u v}, related t u → related u v → related t v
  note : ∀ event t, event.waker? = none → related t (note [event] t)
  share : ∀ error t, related t (share error t).2
  move : ∀ gate state t, state ≠ .pending → related t { t with gate := gate, state := state }
  hush : ∀ t, related t { t with onFailed := none }
  notify : ∀ id outcome t, related t (notify id outcome t)
  record : ∀ id output t, related t (modifyMember id (Member.record output) t)

namespace Framing

variable {related : Transaction → Transaction → Prop} (framing : Framing related)
  (t : Transaction)

include framing

theorem foldl {α : Type} {change : Transaction → α → Transaction}
    (each : ∀ element t, related t (change t element)) (elements : List α) :
    related t (elements.foldl change t) := by
  induction elements generalizing t with
  | nil => exact framing.refl t
  | cons element elements inductionHypothesis =>
      exact framing.trans (each element t) (inductionHypothesis (change t element))

theorem notifyAll (outcome : Member → Outcome) : related t (t.notifyAll outcome) :=
  framing.foldl t (fun id t => framing.notify id outcome t) _

theorem recordEntry (entry : BoundEntry) (outputs : List Output) :
    related t (Transaction.record entry outputs t) := by
  refine framing.foldl t (fun executed t => ?_) _
  exact framing.record executed.1.1 executed.2 t

theorem logIfSlow (elapsed : Duration) (entry : BoundEntry) :
    related t (t.logIfSlow elapsed entry) := by
  unfold Transaction.logIfSlow
  split
  · exact framing.note _ t rfl
  · exact framing.refl t

theorem settle (outcome : Except SharedError Unit) : related t (t.settle outcome) := by
  cases outcome with
  | ok _ =>
      have moved := framing.move t.gate .committed t (by rintro ⟨⟩)
      exact framing.trans moved (framing.notifyAll _ completed)
  | error error =>
      rw [Transaction.settle, callOnFailed]
      have moved := framing.trans (framing.note (.logged .transactionFailed) t rfl)
        (framing.move false .rolledBack _ (by rintro ⟨⟩))
      have told := framing.trans moved (framing.notifyAll _ fun _ => .error error)
      split
      · exact told
      · exact framing.trans told (framing.trans (framing.hush _) (framing.note _ _ rfl))

theorem resume (elapsed : Duration) (phase : Phase) (answer : Except Error phase.operation.Answer) :
    related t (t.resume elapsed phase answer).2 := by
  have logged (event : LogEvent) : related t (t.log event) := framing.note _ t rfl
  cases phase with
  | acquire planned =>
      cases answer with
      | ok _ => exact framing.refl t
      | error error =>
          exact framing.trans (framing.share error t) (framing.settle _ (.error (t.share error).1))
  | start planned =>
      cases answer with
      | ok _ => exact framing.refl t
      | error error => exact framing.share error t
  | execute entry rest =>
      cases answer with
      | error error => exact framing.share error t
      | ok answer =>
          have slow := framing.logIfSlow t elapsed entry
          let outputs := (entryOperation entry).outputs answer
          simp only [Transaction.resume]
          split
          · exact framing.trans slow
              (framing.share (.batchResult entry.statements.length outputs.length) _)
          · exact framing.trans slow (framing.recordEntry _ entry outputs)
  | commit =>
      cases answer with
      | ok _ => exact framing.refl t
      | error error => exact framing.share error t
  | rollback cause =>
      cases answer with
      | ok _ => exact framing.refl t
      | error _ => exact logged _
  | restore outcome =>
      cases answer with
      | ok _ => exact framing.refl t
      | error _ => exact logged _
  | close outcome =>
      cases answer with
      | ok _ => exact framing.settle t outcome
      | error _ => exact framing.trans (logged _) (framing.settle _ outcome)

theorem begin : related t t.begin.2 := by
  have admission := t.admission
  generalize t.begin = result at admission ⊢
  cases admission with
  | unsubscribed _ => exact framing.note _ t rfl
  | miscounted _ _ => exact framing.note _ t rfl
  | closed _ => exact framing.note _ t rfl
  | late _ begun => exact framing.trans (framing.move true t.state t begun) (framing.note _ _ rfl)
  | @unbound _ error _ =>
      exact framing.trans (framing.move true .executing t nofun) (framing.settle _ (.error error))
  | admitted _ _ => exact framing.move true .executing t nofun

variable {σ : Type} (backend : Backend σ)

theorem drive (run : Run) (state : σ) : related t (t.drive backend run state).2.1 := by
  fun_induction Transaction.drive backend run t state with
  | case1 run t state later polled => exact framing.refl t
  | case2 run t state answer later polled noted after resumed =>
      have answered := framing.resume noted (backend.elapsed run.phase.operation) run.phase answer
      rw [resumed] at answered
      exact framing.trans (framing.note _ t rfl) answered
  | case3 run t state answer later polled noted next after resumed _ inductionHypothesis =>
      have answered := framing.resume noted (backend.elapsed run.phase.operation) run.phase answer
      rw [resumed] at answered
      exact framing.trans (framing.trans (framing.note _ t rfl) answered) inductionHypothesis

theorem carryOn (run : Run) (state : σ) : related t (t.carryOn backend run state).2.1 := by
  have driven := framing.drive t backend run state
  unfold Transaction.carryOn
  generalize t.drive backend run state = result at driven ⊢
  rcases result with ⟨_ | _, _, _⟩ <;> exact driven

/-- What an execution does is respected as a whole. -/
theorem execute (execution : Execution) (state : σ) :
    related t (t.execute backend execution state).2.1 := by
  cases execution with
  | running run => exact framing.carryOn t backend run state
  | unstarted =>
      have begun := framing.begin t
      simp only [Transaction.execute]
      generalize t.begin = result at begun ⊢
      rcases result with ⟨run | result, after⟩
      · exact framing.trans begun (framing.carryOn _ _ _ _)
      · exact begun

end Framing

end Transaction

end NamedSql
