import NamedSql.Proofs.Transaction.Conclusion

/-!
# How an execution changes where a transaction stands

The answer to a phase takes a run which is underway to its next phase or settles
the transaction, and so does carrying the run on until it is suspended or ends.  A
request to execute starts a run only while statements are gathered, all of them are
subscribed and their number is right; every other request leaves the transaction
where it stands.
-/

namespace NamedSql

open Exchange (answers)

namespace Ledger.Underway

variable {ledger : Ledger} {exchanges : List Exchange} {entries : List BoundEntry}
  {outputs recorded : List Output} {phase next : Phase} {suspended : Nat}

/-- After an answer, nothing is pending. -/
theorem calls_answered (underway : ledger.Underway exchanges entries outputs ⟨phase, suspended⟩)
    (answer : Except Error phase.operation.Answer) :
    Exchange.calls (exchanges ++ [⟨phase.operation, suspended, some answer⟩]) =
      (answers (exchanges ++ [⟨phase.operation, suspended, some answer⟩])).map
        (·.operation) := by
  rw [Exchange.calls_concat, Exchange.answers_concat_some, underway.calls, List.map_append]
  by_cases called : suspended = 0 <;> simp [called]

/-- An answer which leads to the next phase. -/
theorem advanced (underway : ledger.Underway exchanges entries outputs ⟨phase, suspended⟩)
    (answer : Except Error phase.operation.Answer)
    (reached : next.Reached entries (answers exchanges ++ [⟨phase.operation, answer⟩]) recorded) :
    ({ ledger with lines := linesOf ledger.statements recorded } : Ledger).Underway
      (exchanges ++ [⟨phase.operation, suspended, some answer⟩]) entries recorded
      { phase := next } := by
  have statements : ({ ledger with lines := linesOf ledger.statements recorded } :
      Ledger).statements = ledger.statements := statements_linesOf _ _
  have length : (linesOf ledger.statements recorded).length = ledger.lines.length := by
    simp [linesOf, Ledger.statements]
  refine ⟨underway.state, underway.gate, length.trans underway.length,
    (congrArg planOf statements).trans underway.planned,
    congrArg (linesOf · recorded) statements.symm, underway.notices, ?_, ?_⟩
  · rw [Exchange.answers_concat_some]
    exact reached
  · rw [underway.calls_answered answer, if_pos rfl, List.append_nil]

/-- A run which is suspended is still underway. -/
theorem suspend (underway : ledger.Underway exchanges entries outputs ⟨phase, suspended⟩) :
    ledger.Underway (exchanges ++ [⟨phase.operation, suspended, none⟩]) entries outputs
      ⟨phase, suspended + 1⟩ := by
  refine { underway with reached := ?_, calls := ?_ }
  · rw [Exchange.answers_concat_none]
    exact underway.reached
  · rw [Exchange.calls_concat, Exchange.answers_concat_none, underway.calls]
    by_cases called : suspended = 0 <;> simp [called]

end Ledger.Underway

/-- The run which is underway after a request was polled: a request which finishes
without a run of its own leaves the one of another. -/
def Progress.current (execution : Execution) (before : Option Run) : Progress → Option Run
  | .suspended run => some run
  | .finished _ =>
    match execution with
    | .unstarted => before
    | .running _ => none

namespace Transaction

open Ledger (Standing)

variable {t : Transaction} {exchanges : List Exchange} {entries : List BoundEntry}
  {outputs : List Output} {callback : Option String} {phase : Phase} {suspended : Nat}

/-! ## One answer -/

/-- An answer which changes no line and leads to another phase. -/
theorem standing_of_next {after : Transaction} {next : Phase}
    (underway : t.ledger.Underway exchanges entries outputs ⟨phase, suspended⟩)
    (registered : t.onFailed = callback) (same : after.ledger = t.ledger)
    (answer : Except Error phase.operation.Answer)
    (reached : next.Reached entries (answers exchanges ++ [⟨phase.operation, answer⟩]) outputs) :
    Standing after.ledger (exchanges ++ [⟨phase.operation, suspended, some answer⟩]) callback
      (some { phase := next }) := by
  have advanced := underway.advanced answer reached
  rw [← underway.lines] at advanced
  exact same ▸ .underway advanced registered

/-- An answer which is the failure of the run. -/
theorem standing_of_failed {before : Transaction} {error : Error}
    (underway : t.ledger.Underway exchanges entries outputs ⟨phase, suspended⟩)
    (registered : t.onFailed = callback) (same : before.ledger = t.ledger)
    (answer : Except Error phase.operation.Answer)
    (reached : ∀ cause : SharedError, cause.error = error → (Phase.rollback cause).Reached entries
      (answers exchanges ++ [⟨phase.operation, answer⟩]) outputs) :
    Standing (before.fail error fun e => some (.rollback e)).2.ledger
      (exchanges ++ [⟨phase.operation, suspended, some answer⟩]) callback
      ((before.fail error fun e => some (.rollback e)).1.map fun next => { phase := next }) :=
  standing_of_next underway registered ((ledger_share before error).trans same) answer
    (reached _ rfl)

/-- An answer which completes a course. -/
theorem standing_of_course {before : Transaction} {outcome : Except SharedError Unit}
    (underway : t.ledger.Underway exchanges entries outputs ⟨phase, suspended⟩)
    (registered : t.onFailed = callback) (same : before.ledger = t.ledger)
    (answer : Except Error phase.operation.Answer) (course : Course entries)
    (trace : answers exchanges ++ [⟨phase.operation, answer⟩] = course.trace)
    (decides : course.Decides outcome) (recorded : outputs = course.outputs) :
    Standing (before.settle outcome).ledger
      (exchanges ++ [⟨phase.operation, suspended, some answer⟩]) callback none := by
  rw [ledger_settle, same]
  rw [← Exchange.answers_concat_some exchanges phase.operation suspended] at trace
  exact .settled (underway.settled registered course trace
    ((underway.calls_answered answer).trans (congrArg _ trace)) decides recorded)

/-- The connection has executed an entry: it counts as failed if the number of its
results is wrong. -/
theorem standing_executed {entry : BoundEntry} {rest : List BoundEntry} (elapsed : Duration)
    (underway : t.ledger.Underway exchanges entries outputs ⟨.execute entry rest, suspended⟩)
    (registered : t.onFailed = callback) (answer : (entryOperation entry).Answer) :
    Standing (t.resume elapsed (.execute entry rest) (.ok answer)).2.ledger
      (exchanges ++ [⟨entryOperation entry, suspended, some (.ok answer)⟩]) callback
      ((t.resume elapsed (.execute entry rest) (.ok answer)).1.map
        fun next => { phase := next }) := by
  have reached := underway.reached
  have slow := ledger_logIfSlow t elapsed entry
  by_cases wrong : ((entryOperation entry).outputs answer).length ≠ entry.statements.length
  · have resumed : t.resume elapsed (.execute entry rest) (.ok answer) =
        (t.logIfSlow elapsed entry).fail
          (.batchResult entry.statements.length ((entryOperation entry).outputs answer).length)
          fun e => some (.rollback e) := if_pos wrong
    have failure : (⟨entry, .ok answer⟩ : Attempt).failure = some _ := if_pos wrong
    rw [resumed]
    exact standing_of_failed underway registered slow _ fun _ => reached.broken failure
  · have resumed : t.resume elapsed (.execute entry rest) (.ok answer) =
        (some (.next rest),
          (t.logIfSlow elapsed entry).record entry ((entryOperation entry).outputs answer)) :=
      if_neg wrong
    have succeeded : (⟨entry, .ok answer⟩ : Attempt).failure = none := if_neg wrong
    have numbers := Remaining.numbers reached (numbers_of_planOf underway.planned)
    have lines : (t.logIfSlow elapsed entry).ledger.lines = _ := slow ▸ underway.lines
    have recorded := ledger_recordEntry lines numbers (not_not.mp wrong)
    rw [resumed, recorded, slow]
    exact .underway (underway.advanced (.ok answer) (reached.executed succeeded)) registered

theorem standing_resume (elapsed : Duration)
    (underway : t.ledger.Underway exchanges entries outputs ⟨phase, suspended⟩)
    (registered : t.onFailed = callback) (answer : Except Error phase.operation.Answer) :
    Standing (t.resume elapsed phase answer).2.ledger
      (exchanges ++ [⟨phase.operation, suspended, some answer⟩]) callback
      ((t.resume elapsed phase answer).1.map fun next => { phase := next }) := by
  have reached := underway.reached
  cases phase with
  | acquire planned =>
      cases answer with
      | ok _ => exact standing_of_next underway registered rfl _ reached.started
      | error error =>
          obtain ⟨course, trace, failure, recorded⟩ := reached.refused
          exact standing_of_course underway registered (ledger_share t error) _ course trace
            failure recorded
  | start planned =>
      cases answer with
      | ok _ => exact standing_of_next underway registered rfl _ reached.opened
      | error error =>
          exact standing_of_failed underway registered rfl _ fun _ => reached.unstarted
  | execute entry rest =>
      cases answer with
      | error error =>
          exact standing_of_failed underway registered rfl _ fun _ => reached.broken rfl
      | ok answer =>
          exact standing_executed elapsed underway registered answer
  | commit =>
      cases answer with
      | ok _ => exact standing_of_next underway registered rfl _ reached.committed
      | error error =>
          exact standing_of_failed underway registered rfl _ fun _ => reached.uncommitted
  | rollback cause =>
      cases answer with
      | ok _ => exact standing_of_next underway registered rfl _ reached.rolledBack
      | error _ =>
          exact standing_of_next underway registered (ledger_log t _) _ reached.rolledBack
  | restore outcome =>
      cases answer with
      | ok _ => exact standing_of_next underway registered rfl _ reached.restored
      | error _ =>
          exact standing_of_next underway registered (ledger_log t _) _ reached.restored
  | close outcome =>
      cases answer with
      | ok _ =>
          obtain ⟨course, trace, decides, recorded⟩ := reached.closed
          exact standing_of_course underway registered rfl _ course trace decides recorded
      | error _ =>
          obtain ⟨course, trace, decides, recorded⟩ := reached.closed
          exact standing_of_course underway registered (ledger_log t _) _ course trace decides
            recorded

/-! ## Carrying a run on -/

theorem standing_answered {run : Run} {answer : Except Error run.phase.operation.Answer}
    {elapsed : Duration} {next : Option Phase} {after : Transaction}
    (standing : Standing t.ledger exchanges callback (some run))
    (resumed : (t.note [.performed run.phase.operation (failure? answer)]).resume elapsed run.phase
      answer = (next, after)) :
    Standing after.ledger (exchanges ++ [⟨run.phase.operation, run.suspended, some answer⟩])
      callback (next.map fun next => { phase := next }) := by
  rw [← ledger_performed t run.phase.operation (failure? answer)] at standing
  cases standing with
  | underway underway registered =>
      have answered := standing_resume elapsed underway registered answer
      rw [resumed] at answered
      exact answered

variable {σ : Type}

theorem standing_drive (backend : Backend σ) {run : Run} {state : σ × List Exchange}
    (standing : Standing t.ledger state.2 callback (some run)) :
    Standing (t.drive backend.recording run state).2.1.ledger
      (t.drive backend.recording run state).2.2.2 callback
      (t.drive backend.recording run state).1 := by
  fun_induction drive backend.recording run t state with
  | case1 run t state later polled =>
      rw [Backend.recorded_of_poll polled]
      cases standing with
      | underway underway registered => exact .underway underway.suspend registered
  | case2 run t state answer later polled performed after resumed =>
      rw [Backend.recorded_of_poll polled]
      exact standing_answered standing resumed
  | case3 run t state answer later polled performed next after resumed _ inductionHypothesis =>
      apply inductionHypothesis
      rw [Backend.recorded_of_poll polled]
      exact standing_answered standing resumed

/-! ## Requests -/

/-- Whether a transaction may be executed. -/
structure Ready (t : Transaction) : Prop where
  subscribed : t.awaiting = []
  counted : t.members.length = t.expected
  gate : t.gate = false
  state : t.state = .pending

/-- The ways in which a request to execute begins. -/
inductive Admission (t : Transaction) : Progress × Transaction → Prop
  | unsubscribed (missing : t.awaiting ≠ []) :
      Admission t (t.refuse (.notAllSubscribed t.awaiting.length))
  | miscounted (subscribed : t.awaiting = []) (miscounted : t.members.length ≠ t.expected) :
      Admission t (t.refuse (.modifiedAfterCreation t.expected t.members.length))
  | closed (gate : t.gate = true) : Admission t (.finished (.ok ()), t.log .alreadyExecuting)
  | late (gate : t.gate = false) (begun : t.state ≠ .pending) :
      Admission t (.finished (.ok ()), { t with gate := true }.log (.alreadyExecuted t.state))
  | unbound (ready : t.Ready) {error : SharedError} (unplanned : boundPlan t.members = .error error) :
      Admission t
        (.finished (.ok ()), { t with gate := true, state := .executing }.settle (.error error))
  | admitted (ready : t.Ready) {entries : List BoundEntry}
      (planned : boundPlan t.members = .ok entries) :
      Admission t
        (.suspended { phase := .acquire entries }, { t with gate := true, state := .executing })

theorem admission (t : Transaction) : t.Admission t.begin := by
  unfold begin
  by_cases subscribed : t.awaiting = []
  · rw [if_neg (by simp [subscribed])]
    by_cases counted : t.members.length = t.expected
    · rw [if_neg (not_not_intro counted)]
      cases gate : t.gate with
      | true => exact .closed gate
      | false =>
          rw [if_neg Bool.false_ne_true]
          by_cases pending : t.state = .pending
          · rw [if_neg (not_not_intro pending)]
            have ready : t.Ready := ⟨subscribed, counted, gate, pending⟩
            cases planned : boundPlan t.members with
            | error error => simpa [planned] using Admission.unbound ready planned
            | ok entries => simpa [planned] using Admission.admitted ready planned
          · rw [if_pos pending]
            exact .late gate pending
    · rw [if_pos counted]
      exact .miscounted subscribed counted
  · rw [if_pos (by simpa using subscribed)]
    exact .unsubscribed subscribed

theorem statements_ledger (t : Transaction) :
    t.ledger.statements = t.members.map (·.statement) := by
  simp [ledger, Ledger.statements, Function.comp_def, Member.line]

/-- A request which is admitted begins a run of the whole plan. -/
theorem Ready.underway (ready : t.Ready) (gathering : t.ledger.Gathering)
    (planned : boundPlan t.members = .ok entries) :
    ({ t with gate := true, state := .executing } : Transaction).ledger.Underway [] entries []
      { phase := .acquire entries } := by
  rw [boundPlan_eq_planOf, ← statements_ledger] at planned
  have notices := gathering.notices
  rw [earlyNotices_of_planOf planned] at notices
  have lines := gathering.lines
  rw [← linesOf_nil planned] at lines
  exact ⟨rfl, rfl, (List.length_map _).trans ready.counted, planned, lines, notices,
    ⟨rfl, rfl, rfl⟩, rfl⟩

/-! ## Polling a request -/

variable {current : Option Run}

theorem standing_carryOn (backend : Backend σ) {run : Run} {state : σ × List Exchange}
    (standing : Standing t.ledger state.2 callback (some run)) :
    Standing (t.carryOn backend.recording run state).2.1.ledger
      (t.carryOn backend.recording run state).2.2.2 callback
      ((t.carryOn backend.recording run state).1.current (.running run) (some run)) := by
  have driven := standing_drive backend standing
  unfold carryOn
  generalize t.drive backend.recording run state = result at driven ⊢
  rcases result with ⟨_ | next, after, later⟩ <;> exact driven

theorem carryOn_ne_error (backend : Backend σ) (run : Run) (state : σ) (error : Error) :
    (t.carryOn backend run state).1 ≠ .finished (.error error) := by
  unfold carryOn
  rcases t.drive backend run state with ⟨_ | _, _, _⟩ <;> exact nofun

/-- An error is only ever returned by a request which begins no run: because statements
are awaited, or because their number is wrong. -/
theorem refused_of_execute {backend : Backend σ} {execution : Execution} {state : σ}
    {error : Error} (refused : (t.execute backend execution state).1 = .finished (.error error)) :
    execution = .unstarted ∧
      (t.awaiting ≠ [] ∧ error = .notAllSubscribed t.awaiting.length ∨
        t.awaiting = [] ∧ t.members.length ≠ t.expected ∧
          error = .modifiedAfterCreation t.expected t.members.length) := by
  cases execution with
  | running run => exact absurd refused (carryOn_ne_error backend run state error)
  | unstarted =>
      have begun := t.admission
      simp only [execute] at refused
      generalize t.begin = result at begun refused
      constructor
      · rfl
      cases begun with
      | unsubscribed missing =>
          cases refused
          exact .inl ⟨missing, rfl⟩
      | miscounted subscribed miscounted =>
          cases refused
          exact .inr ⟨subscribed, miscounted, rfl⟩
      | closed _ => cases refused
      | late _ _ => cases refused
      | unbound _ _ => cases refused
      | admitted _ _ => exact absurd refused (carryOn_ne_error backend _ state error)

/-- A request which is not admitted changes nothing but the gate, unless a statement is
not bound. -/
theorem standing_finished {after : Transaction} {result : Except Error Unit}
    (standing : Standing t.ledger exchanges callback current)
    (begun : t.Admission (.finished result, after)) :
    Standing after.ledger exchanges callback current := by
  cases begun with
  | unsubscribed _ => exact (ledger_log t _).symm ▸ standing
  | miscounted _ _ => exact (ledger_log t _).symm ▸ standing
  | closed _ => exact (ledger_log t _).symm ▸ standing
  | late gate begun =>
      rw [ledger_log]
      cases standing with
      | gathering gathering _ _ => exact absurd gathering.state begun
      | underway underway _ => exact nomatch underway.gate.symm.trans gate
      | settled settled =>
          exact .settled ⟨settled.state, settled.length, settled.concluded, settled.lines,
            settled.notices⟩
  | unbound ready unplanned =>
      obtain ⟨gathering, rfl, registered, rfl⟩ := standing.gathering_of_pending ready.state
      rw [boundPlan_eq_planOf, ← statements_ledger] at unplanned
      rw [ledger_settle]
      exact .settled (gathering.settled registered
        ((List.length_map _).trans ready.counted) unplanned)

/-- A request which is admitted begins a run, and there was none before. -/
theorem standing_suspended {after : Transaction} {run : Run}
    (standing : Standing t.ledger exchanges callback current)
    (begun : t.Admission (.suspended run, after)) :
    current = none ∧ Standing after.ledger exchanges callback (some run) := by
  cases begun with
  | admitted ready planned =>
      obtain ⟨gathering, rfl, registered, rfl⟩ := standing.gathering_of_pending ready.state
      exact ⟨rfl, .underway (ready.underway gathering planned) registered⟩

theorem standing_execute (backend : Backend σ) {execution : Execution}
    {state : σ × List Exchange} (standing : Standing t.ledger state.2 callback current)
    (held : ∀ run, execution = .running run → current = some run) :
    Standing (t.execute backend.recording execution state).2.1.ledger
      (t.execute backend.recording execution state).2.2.2 callback
      ((t.execute backend.recording execution state).1.current execution current) := by
  cases execution with
  | running run =>
      obtain rfl := held run rfl
      exact standing_carryOn backend standing
  | unstarted =>
      have begun := t.admission
      simp only [execute]
      generalize t.begin = result at begun ⊢
      rcases result with ⟨run | result, after⟩
      · obtain ⟨rfl, admitted⟩ := standing_suspended standing begun
        have carried := standing_carryOn backend admitted
        simp only
        generalize after.carryOn backend.recording run state = result at carried ⊢
        rcases result with ⟨_ | _, _, _⟩ <;> exact carried
      · exact standing_finished standing begun

end Transaction

end NamedSql
