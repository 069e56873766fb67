import NamedSql.Proofs.Transaction.Entries
import NamedSql.Proofs.Transaction.Progress

/-!
# The books of a transaction

The execution of a transaction depends on its ledger and on the number of its errors alone.  The
answers to the operations of the cleanup have no influence on it at all: whether they are failures
is logged and nothing else.
-/

namespace NamedSql

/-- Whether an operation is part of the cleanup after the outcome was decided. -/
def Operation.isCleanup : Operation → Bool
  | .rollback | .autoCommit true | .close => true
  | _ => false

theorem isCleanup_operation (statement : Statement) : statement.operation.isCleanup = false := by
  unfold Statement.operation
  cases statement.kind <;> rfl

theorem isCleanup_entryOperation (entry : BoundEntry) :
    (entryOperation entry).isCleanup = false := by
  unfold entryOperation
  cases entry.others with
  | nil => exact isCleanup_operation entry.first.2
  | cons _ _ => rfl

namespace Transaction

/-- The ledger with the number of errors so far. -/
def books (t : Transaction) : Ledger × Nat :=
  (t.ledger, t.errors)

variable (t : Transaction)

@[simp]
theorem books_log (event : LogEvent) : (t.log event).books = t.books := by
  rw [books, ledger_log]
  rfl

@[simp]
theorem books_performed (operation : Operation) (failure : Option Error) :
    (t.note [.performed operation failure]).books = t.books := by
  rw [books, ledger_performed]
  rfl

@[simp]
theorem books_logIfSlow (elapsed : Duration) (entry : BoundEntry) :
    (t.logIfSlow elapsed entry).books = t.books := by
  rw [books, ledger_logIfSlow, errors_logIfSlow]
  rfl

theorem share_eq (error : Error) : (t.share error).1 = ⟨t.books.2, error⟩ :=
  rfl

@[simp]
theorem books_share (error : Error) : (t.share error).2.books = (t.books.1, t.books.2 + 1) :=
  rfl

/-! ## Settling -/

theorem errors_notify (id : Nat) (outcome : Member → Outcome) :
    (t.notify id outcome).errors = t.errors := by
  unfold notify
  split
  · rfl
  · split
    · rfl
    · dsimp only
      split <;> rfl

theorem errors_notifyAll (outcome : Member → Outcome) :
    (t.notifyAll outcome).errors = t.errors := by
  unfold notifyAll
  induction List.range t.members.length using List.reverseRecOn with
  | nil => rfl
  | append_singleton ids id inductionHypothesis =>
      rw [List.foldl_append, List.foldl_cons, List.foldl_nil, errors_notify, inductionHypothesis]

theorem errors_settle (outcome : Except SharedError Unit) :
    (t.settle outcome).errors = t.errors := by
  cases outcome with
  | ok _ => exact errors_notifyAll { t with state := .committed } completed
  | error error =>
      rw [settle, callOnFailed]
      split
      · exact errors_notifyAll _ _
      · exact errors_notifyAll _ _

@[simp]
theorem books_settle (outcome : Except SharedError Unit) :
    (t.settle outcome).books = (t.books.1.settle outcome, t.books.2) := by
  rw [books, ledger_settle, errors_settle]
  rfl

/-! ## Recording -/

/-- The lines after outputs of numbered statements were recorded. -/
def recordedLines (executed : List ((Nat × Statement) × Output)) (lines : List Line) : List Line :=
  executed.foldl (fun lines executed => lines.modify executed.1.1 (Line.recorded executed.2)) lines

@[simp]
theorem books_record (entry : BoundEntry) (outputs : List Output) :
    (t.record entry outputs).books =
      ({ t.books.1 with
          lines := recordedLines (entry.statements.zip outputs) t.books.1.lines }, t.books.2) := by
  rw [books, errors_record]
  unfold record
  induction entry.statements.zip outputs generalizing t with
  | nil => rfl
  | cons executed _ inductionHypothesis =>
      rw [List.foldl_cons]
      have first := ledger_record t executed.1.1 executed.2
      have others := inductionHypothesis (t.modifyMember executed.1.1 (Member.record executed.2))
      rw [Prod.mk.injEq] at others ⊢
      refine ⟨?_, rfl⟩
      rw [others.1, books, first]
      rfl

/-! ## Going on from a phase -/

variable {t u : Transaction} {phase : Phase} {answer other : Except Error phase.operation.Answer}

/-- Errors get the same identity where the books are the same. -/
theorem fail_congr (same : t.books = u.books) (error : Error)
    (next : SharedError → Option Phase) :
    (t.fail error next).1 = (u.fail error next).1 ∧
      (t.fail error next).2.books = (u.fail error next).2.books := by
  simp only [fail, share_eq, books_share, same, and_self]

/-- Where a run goes on, and with which books, depends on the books and on the answer, and on the
answer only outside of the cleanup. -/
theorem resume_congr (same : t.books = u.books)
    (alike : phase.operation.isCleanup = false → answer = other) (elapsed otherElapsed : Duration) :
    (t.resume elapsed phase answer).1 = (u.resume otherElapsed phase other).1 ∧
      (t.resume elapsed phase answer).2.books = (u.resume otherElapsed phase other).2.books := by
  cases phase with
  | acquire entries =>
      obtain rfl := alike rfl
      cases answer with
      | ok _ => exact ⟨rfl, same⟩
      | error error =>
          refine ⟨rfl, ?_⟩
          simp only [resume, share_eq, books_settle, books_share, same]
  | start entries =>
      obtain rfl := alike rfl
      cases answer with
      | ok _ => exact ⟨rfl, same⟩
      | error error => exact fail_congr same error _
  | execute entry rest =>
      obtain rfl := alike (isCleanup_entryOperation entry)
      have logged : (t.logIfSlow elapsed entry).books = (u.logIfSlow otherElapsed entry).books := by
        rw [books_logIfSlow, books_logIfSlow, same]
      cases answer with
      | ok answer =>
          simp only [resume]
          split
          · exact fail_congr logged _ _
          · refine ⟨rfl, ?_⟩
            rw [books_record, books_record, logged]
      | error error => exact fail_congr same error _
  | commit =>
      obtain rfl := alike rfl
      cases answer with
      | ok _ => exact ⟨rfl, same⟩
      | error error => exact fail_congr same error _
  | rollback cause =>
      cases answer <;> cases other <;> refine ⟨rfl, ?_⟩ <;>
        simpa only [resume, books_log] using same
  | restore outcome =>
      cases answer <;> cases other <;> refine ⟨rfl, ?_⟩ <;>
        simpa only [resume, books_log] using same
  | close outcome =>
      cases answer <;> cases other <;> refine ⟨rfl, ?_⟩ <;>
        simp only [resume, books_settle, books_log, same]

/-! ## Polling an execution -/

variable {σ : Type} (backend : Backend σ)

/-- Two executions have come to the same, as far as the books tell. -/
def SameBooks {α : Type} (first second : α × Transaction × σ) : Prop :=
  first.1 = second.1 ∧ first.2.1.books = second.2.1.books ∧ first.2.2 = second.2.2

/-- How far a run is carried on depends on the books alone. -/
theorem drive_congr {t u : Transaction} (same : t.books = u.books) (run : Run) (state : σ) :
    SameBooks (t.drive backend run state) (u.drive backend run state) := by
  obtain ⟨phase, suspended⟩ := run
  rcases polled : backend.poll phase.operation suspended state with ⟨_ | answer, between⟩
  · rw [drive, drive, polled]
    exact ⟨rfl, same, rfl⟩
  · have noted (failure : Option Error) : (t.note [.performed phase.operation failure]).books =
        (u.note [.performed phase.operation failure]).books := by
      rw [books_performed, books_performed, same]
    have resumed := resume_congr (noted (failure? answer)) (fun _ => Eq.refl answer)
      (backend.elapsed phase.operation) (backend.elapsed phase.operation)
    rcases left : (t.note [.performed phase.operation (failure? answer)]).resume
      (backend.elapsed phase.operation) phase answer with ⟨goesOn, t'⟩
    rcases right : (u.note [.performed phase.operation (failure? answer)]).resume
      (backend.elapsed phase.operation) phase answer with ⟨_, u'⟩
    rw [left, right] at resumed
    obtain ⟨rfl, same⟩ := resumed
    cases goesOn with
    | none =>
        rw [drive_of_last polled left, drive_of_last polled right]
        exact ⟨rfl, same, rfl⟩
    | some next =>
        have := remaining_lt_of_resume left
        rw [drive_of_answered polled left, drive_of_answered polled right]
        exact drive_congr same { phase := next } between
termination_by run.phase.remaining

theorem carryOn_congr (same : t.books = u.books) (run : Run) (state : σ) :
    SameBooks (t.carryOn backend run state) (u.carryOn backend run state) := by
  have driven := drive_congr backend same run state
  unfold carryOn
  generalize t.drive backend run state = first at driven ⊢
  generalize u.drive backend run state = second at driven ⊢
  obtain ⟨progress, t', later⟩ := first
  obtain ⟨_, u', _⟩ := second
  obtain ⟨rfl, books, rfl⟩ := driven
  cases progress <;> exact ⟨rfl, books, rfl⟩

/-- How a request begins depends on the books and on the statements which are awaited. -/
theorem begin_congr (same : t.books = u.books) (awaiting : t.awaiting = u.awaiting) :
    t.begin.1 = u.begin.1 ∧ t.begin.2.books = u.begin.2.books := by
  have ledger : t.ledger = u.ledger := congrArg Prod.fst same
  have expected : t.expected = u.expected := congrArg Ledger.expected ledger
  have gate : t.gate = u.gate := congrArg Ledger.gate ledger
  have state : t.state = u.state := congrArg Ledger.state ledger
  have length : t.members.length = u.members.length := by
    simpa [Transaction.ledger] using congrArg (·.lines.length) ledger
  have plan : boundPlan t.members = boundPlan u.members := by
    rw [boundPlan_eq_planOf, boundPlan_eq_planOf, ← statements_ledger, ← statements_ledger, ledger]
  have moved (gate : Bool) (state : TransactionState) :
      ({ t with gate := gate, state := state } : Transaction).books =
        ({ u with gate := gate, state := state } : Transaction).books := by
    change (({ t.books.1 with gate := gate, state := state } : Ledger), t.books.2) = _
    rw [same]
    rfl
  by_cases missing : ¬ t.awaiting.isEmpty
  · have other : ¬ u.awaiting.isEmpty := by rwa [← awaiting]
    rw [begin, begin, if_pos missing, if_pos other, refuse, refuse, books_log, books_log, awaiting]
    exact ⟨rfl, same⟩
  have attended : ¬¬ u.awaiting.isEmpty := by rwa [← awaiting]
  rw [begin, begin, if_neg missing, if_neg attended]
  by_cases miscounted : t.members.length ≠ t.expected
  · have other : u.members.length ≠ u.expected := by rwa [← length, ← expected]
    rw [if_pos miscounted, if_pos other, refuse, refuse, books_log, books_log, length, expected]
    exact ⟨rfl, same⟩
  have counted : ¬ u.members.length ≠ u.expected := by rwa [← length, ← expected]
  rw [if_neg miscounted, if_neg counted]
  by_cases closed : t.gate = true
  · have other : u.gate = true := by rwa [← gate]
    rw [if_pos closed, if_pos other, books_log, books_log]
    exact ⟨rfl, same⟩
  have opened : ¬ u.gate = true := by rwa [← gate]
  rw [if_neg closed, if_neg opened]
  by_cases begun : t.state ≠ .pending
  · have other : u.state ≠ .pending := by rwa [← state]
    rw [if_pos begun, if_pos other, books_log, books_log]
    exact ⟨rfl, state ▸ moved true t.state⟩
  have pending : ¬ u.state ≠ .pending := by rwa [← state]
  rw [if_neg begun, if_neg pending]
  simp only [plan]
  cases boundPlan u.members with
  | error error => simp only [books_settle, moved, and_self]
  | ok entries => exact ⟨rfl, moved true .executing⟩

/-- How far an execution is carried on depends on the books, and when it begins, on the statements
which are awaited. -/
theorem execute_congr {execution : Execution} (same : t.books = u.books)
    (awaiting : execution = .unstarted → t.awaiting = u.awaiting) (state : σ) :
    SameBooks (t.execute backend execution state) (u.execute backend execution state) := by
  cases execution with
  | running run => exact carryOn_congr backend same run state
  | unstarted =>
      have begun := begin_congr same (awaiting rfl)
      simp only [execute]
      generalize t.begin = first at begun ⊢
      generalize u.begin = second at begun ⊢
      obtain ⟨progress, t'⟩ := first
      obtain ⟨_, u'⟩ := second
      obtain ⟨rfl, books⟩ := begun
      cases progress with
      | suspended run => exact carryOn_congr backend books run state
      | finished result => exact ⟨rfl, books, rfl⟩

end Transaction

end NamedSql
