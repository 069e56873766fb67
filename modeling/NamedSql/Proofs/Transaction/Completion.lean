import NamedSql.Proofs.Transaction.Books
import NamedSql.Proofs.Transaction.Progress

/-!
# Executions which are polled until they finish

If every operation of a connection is answered after finitely many suspensions, then every
execution finishes after finitely many polls.  Where it ends is determined by where it began, and
as far as the books are concerned, by the answers outside of the cleanup.
-/

namespace NamedSql

open Exchange (calls)

variable {σ τ : Type} {backend : Backend σ}

namespace Backend

/-- Every operation is answered after finitely many suspensions. -/
def Responsive (backend : Backend σ) : Prop :=
  ∀ operation state, ∃ answer after, backend.Performs operation 0 state answer after

theorem Prompt.responsive (prompt : backend.Prompt) : backend.Responsive := by
  intro operation state
  rcases polled : backend.poll operation 0 state with ⟨_ | answer, after⟩
  · exact absurd (congrArg Prod.fst polled) (prompt operation 0 state)
  · exact ⟨answer, after, .answered polled⟩

/-- An operation which is suspended once is answered when it is polled again. -/
theorem responsive_suspending (suspends : Operation → Bool)
    (perform : (operation : Operation) → σ → Except Error operation.Answer × σ)
    (elapsed : Operation → Duration) : (suspending suspends perform elapsed).Responsive := by
  intro operation state
  refine ⟨(perform operation state).1, (perform operation state).2, ?_⟩
  cases suspended : suspends operation with
  | true => exact .suspended (by simp [suspending, suspended]) (.answered rfl)
  | false => exact .answered (by simp [suspending, suspended])

namespace Performs

variable {operation : Operation} {suspended : Nat} {state after : σ}
  {answer : Except Error operation.Answer}

/-- The record of an operation which is answered shows one call and one answer. -/
theorem of_recording {before last : σ × List Exchange}
    (performs : backend.recording.Performs operation suspended before answer last) :
    backend.Performs operation suspended before.1 answer last.1 ∧
      calls last.2 = calls before.2 ++ (if suspended = 0 then [operation] else []) ∧
      Exchange.answers last.2 = Exchange.answers before.2 ++ [⟨operation, answer⟩] := by
  induction performs with
  | @answered suspended before last answer polled =>
      have recorded := recorded_of_poll polled
      obtain ⟨answered, next⟩ := Prod.mk.inj polled
      refine ⟨.answered (Prod.ext answered (congrArg Prod.fst next)), ?_, ?_⟩
      · rw [recorded, Exchange.calls_concat]
      · rw [recorded, Exchange.answers_concat_some]
  | @suspended suspended before between last answer polled _ inductionHypothesis =>
      have recorded := recorded_of_poll polled
      obtain ⟨answered, next⟩ := Prod.mk.inj polled
      obtain ⟨later, called, replied⟩ := inductionHypothesis
      refine ⟨.suspended (Prod.ext answered (congrArg Prod.fst next)) later, ?_, ?_⟩
      · rw [called, recorded, Exchange.calls_concat, if_neg (Nat.succ_ne_zero suspended),
          List.append_nil]
      · rw [replied, recorded, Exchange.answers_concat_none]

/-- What is answered is answered while it is recorded, too. -/
theorem recording (performs : backend.Performs operation suspended state answer after)
    (exchanges : List Exchange) :
    ∃ later, backend.recording.Performs operation suspended (state, exchanges) answer
      (after, later) := by
  induction performs generalizing exchanges with
  | @answered suspended _ _ answer polled =>
      refine ⟨exchanges ++ [⟨operation, suspended, some answer⟩], .answered ?_⟩
      simp only [Backend.recording, polled]
  | @suspended suspended state between _ _ polled _ inductionHypothesis =>
      obtain ⟨later, performs⟩ :=
        inductionHypothesis (exchanges ++ [⟨operation, suspended, none⟩])
      have recorded : backend.recording.poll operation suspended (state, exchanges) =
          (none, (between, exchanges ++ [⟨operation, suspended, none⟩])) := by
        simp only [Backend.recording, polled]
      exact ⟨later, .suspended recorded performs⟩

end Performs

theorem Responsive.recording (responsive : backend.Responsive) : backend.recording.Responsive := by
  rintro operation ⟨state, exchanges⟩
  obtain ⟨answer, after, performs⟩ := responsive operation state
  obtain ⟨later, recorded⟩ := performs.recording exchanges
  exact ⟨answer, (after, later), recorded⟩

end Backend

namespace Transaction

variable {phase next : Phase} {suspended : Nat} {t u v : Transaction} {state between after : σ}

/-! ## Runs -/

/-- However often an operation is suspended, the last answer ends the run. -/
theorem ends_iff_of_last {answer : Except Error phase.operation.Answer}
    (performed : backend.Performs phase.operation suspended state answer between)
    (resumed : (t.note [.performed phase.operation (failure? answer)]).resume
      (backend.elapsed phase.operation) phase answer = (none, u)) :
    Ends backend ⟨phase, suspended⟩ t state v after ↔ v = u ∧ after = between := by
  induction performed with
  | @answered suspended state between answer polled =>
      have driven := drive_of_last polled resumed
      constructor
      · intro ends
        cases ends with
        | ended other =>
            cases driven.symm.trans other
            exact ⟨rfl, rfl⟩
        | suspended other _ => cases driven.symm.trans other
      · rintro ⟨rfl, rfl⟩
        exact .ended driven
  | suspended polled _ inductionHypothesis =>
      exact (ends_iff_of_suspended polled).trans (inductionHypothesis resumed)

/-- A run which ends gets an answer, which either ends it or leads to another phase. -/
theorem Ends.cases_answer (ends : Ends backend ⟨phase, suspended⟩ t state v after) :
    ∃ answer between, backend.Performs phase.operation suspended state answer between ∧
      ∃ goesOn u, (t.note [.performed phase.operation (failure? answer)]).resume
          (backend.elapsed phase.operation) phase answer = (goesOn, u) ∧
        match goesOn with
        | none => v = u ∧ after = between
        | some next => Ends backend { phase := next } u between v after := by
  obtain ⟨answer, between, performed⟩ := ends.performs
  refine ⟨answer, between, performed, ?_⟩
  rcases resumed : (t.note [.performed phase.operation (failure? answer)]).resume
    (backend.elapsed phase.operation) phase answer with ⟨_ | next, u⟩
  · exact ⟨none, u, rfl, (ends_iff_of_last performed resumed).mp ends⟩
  · exact ⟨some next, u, rfl, (ends_iff_of_performs performed resumed).mp ends⟩

/-- A run ends in one way. -/
theorem Ends.unique {run : Run} {w : Transaction} {last : σ}
    (ends : Ends backend run t state v after) (again : Ends backend run t state w last) :
    v = w ∧ after = last := by
  induction ends with
  | ended driven =>
      cases again with
      | ended other =>
          cases driven.symm.trans other
          exact ⟨rfl, rfl⟩
      | suspended other _ => cases driven.symm.trans other
  | suspended driven _ inductionHypothesis =>
      cases again with
      | ended other => cases driven.symm.trans other
      | suspended other later =>
          cases driven.symm.trans other
          exact inductionHypothesis later

end Transaction

/-- A run ends if every operation is answered at some time. -/
theorem Backend.Responsive.ends (responsive : backend.Responsive) (phase : Phase)
    (t : Transaction) (state : σ) :
    ∃ u after, Transaction.Ends backend { phase := phase } t state u after := by
  obtain ⟨answer, between, performed⟩ := responsive phase.operation state
  rcases resumed : (t.note [.performed phase.operation (failure? answer)]).resume
    (backend.elapsed phase.operation) phase answer with ⟨_ | next, u⟩
  · exact ⟨u, between, (Transaction.ends_iff_of_last performed resumed).mpr ⟨rfl, rfl⟩⟩
  · have := Transaction.remaining_lt_of_resume resumed
    obtain ⟨v, after, ends⟩ := responsive.ends next u between
    exact ⟨v, after, (Transaction.ends_iff_of_performs performed resumed).mpr ends⟩
termination_by phase.remaining

namespace Transaction

variable {execution : Execution} {result : Except Error Unit} {t u v : Transaction}
  {state between after : σ}

/-! ## Executions -/

/-- An execution is polled until it finishes. -/
inductive Completes (backend : Backend σ) :
    Execution → Transaction → σ → Except Error Unit → Transaction → σ → Prop where
  | finished {execution : Execution} {t u : Transaction} {state after : σ}
      {result : Except Error Unit}
      (executed : t.execute backend execution state = (.finished result, u, after)) :
      Completes backend execution t state result u after
  | suspended {execution : Execution} {run : Run} {t between u : Transaction}
      {state middle after : σ} {result : Except Error Unit}
      (executed : t.execute backend execution state = (.suspended run, between, middle))
      (later : Completes backend (.running run) between middle result u after) :
      Completes backend execution t state result u after

/-- To poll a run until it finishes is to carry it on until it ends. -/
theorem completes_running_iff {run : Run} :
    Completes backend (.running run) t state result u after ↔
      result = .ok () ∧ Ends backend run t state u after := by
  constructor
  · intro completes
    generalize held : Execution.running run = execution at completes
    induction completes generalizing run with
    | finished executed =>
        subst held
        rw [execute, carryOn] at executed
        split at executed
        next => cases executed
        next driven =>
            cases executed
            exact ⟨rfl, .ended driven⟩
    | suspended executed _ inductionHypothesis =>
        subst held
        rw [execute, carryOn] at executed
        split at executed
        next driven =>
            cases executed
            obtain ⟨succeeded, ends⟩ := inductionHypothesis rfl
            exact ⟨succeeded, .suspended driven ends⟩
        next => cases executed
  · rintro ⟨rfl, ends⟩
    induction ends with
    | ended driven => exact .finished (by rw [execute, carryOn, driven])
    | suspended driven _ inductionHypothesis =>
        exact .suspended (by rw [execute, carryOn, driven]) inductionHypothesis

/-- An execution which begins a run completes as this run ends. -/
theorem completes_iff_of_begun {run : Run} (begun : t.begin = (.suspended run, u)) :
    Completes backend .unstarted t state result v after ↔
      result = .ok () ∧ Ends backend run u state v after := by
  have same : t.execute backend .unstarted state = u.execute backend (.running run) state := by
    simp only [execute, begun]
  rw [← completes_running_iff]
  constructor
  · intro completes
    cases completes with
    | finished executed => exact .finished (same ▸ executed)
    | suspended executed later => exact .suspended (same ▸ executed) later
  · intro completes
    cases completes with
    | finished executed => exact .finished (same.trans executed)
    | suspended executed later => exact .suspended (same.trans executed) later

/-- An execution which begins no run has completed at once. -/
theorem completes_iff_of_finished {other : Except Error Unit}
    (begun : t.begin = (.finished other, u)) :
    Completes backend .unstarted t state result v after ↔
      result = other ∧ v = u ∧ after = state := by
  have executed : t.execute backend .unstarted state = (.finished other, u, state) := by
    rw [execute, begun]
  constructor
  · intro completes
    cases completes with
    | finished again =>
        cases executed.symm.trans again
        exact ⟨rfl, rfl, rfl⟩
    | suspended again _ => cases executed.symm.trans again
  · rintro ⟨rfl, rfl, rfl⟩
    exact .finished executed

/-- A run begins with its first operation. -/
theorem suspended_of_begin {run : Run} (begun : t.begin = (.suspended run, u)) :
    run.suspended = 0 := by
  have admission := t.admission
  rw [begun] at admission
  cases admission
  rfl

/-- Every execution completes if every operation is answered at some time. -/
theorem exists_completes (responsive : backend.Responsive) (t : Transaction) (state : σ) :
    ∃ result u after, Completes backend .unstarted t state result u after := by
  rcases begun : t.begin with ⟨⟨phase, suspended⟩ | result, u⟩
  · obtain rfl : suspended = 0 := suspended_of_begin begun
    obtain ⟨v, after, ends⟩ := responsive.ends phase u state
    exact ⟨.ok (), v, after, (completes_iff_of_begun begun).mpr ⟨rfl, ends⟩⟩
  · exact ⟨result, u, state, (completes_iff_of_finished begun).mpr ⟨rfl, rfl, rfl⟩⟩

/-- How an execution completes depends on the books, and when it begins, on the statements which
are awaited. -/
theorem Completes.congr (completes : Completes backend execution t state result v after)
    (same : t.books = u.books) (awaiting : execution = .unstarted → t.awaiting = u.awaiting) :
    ∃ w, Completes backend execution u state result w after ∧ w.books = v.books := by
  induction completes generalizing u with
  | @finished execution t v state after result executed =>
      have alike := execute_congr backend same awaiting state
      rcases other : u.execute backend execution state with ⟨progress, w, later⟩
      rw [executed, other] at alike
      obtain ⟨rfl, books, rfl⟩ := alike
      exact ⟨w, .finished other, books.symm⟩
  | @suspended execution run t between v state middle after result executed _ inductionHypothesis =>
      have alike := execute_congr backend same awaiting state
      rcases other : u.execute backend execution state with ⟨progress, next, later⟩
      rw [executed, other] at alike
      obtain ⟨rfl, books, rfl⟩ := alike
      obtain ⟨w, completes, ends⟩ := inductionHypothesis books nofun
      exact ⟨w, .suspended other completes, ends⟩

end Transaction

end NamedSql
