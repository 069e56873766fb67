import NamedSql.Proofs.Transaction.Entries

/-!
# The past of a transaction

Nothing which a transaction does depends on its history.  Whatever is done to a transaction with
another past, it comes to the same, with this past.  Transactions which differ in nothing but log
entries therefore stay alike.
-/

namespace NamedSql

/-- Whether an event is the log entry for an error which is returned. -/
def Event.isReturned : Event → Bool
  | .logged (.returned _) => true
  | _ => false

namespace Transaction

/-- The transaction with a past before its history. -/
def withPast (past : List Event) (t : Transaction) : Transaction :=
  { t with history := past ++ t.history }

variable (past : List Event) (t : Transaction)

/-! ## Telling sinks -/

@[simp]
theorem note_withPast (events : List Event) :
    (t.withPast past).note events = (t.note events).withPast past := by
  simp [note, withPast]

@[simp]
theorem log_withPast (event : LogEvent) :
    (t.withPast past).log event = (t.log event).withPast past :=
  t.note_withPast past _

@[simp]
theorem share_withPast (error : Error) :
    (t.withPast past).share error = ((t.share error).1, (t.share error).2.withPast past) :=
  rfl

@[simp]
theorem modifyMember_withPast (id : Nat) (change : Member → Member) :
    (t.withPast past).modifyMember id change = (t.modifyMember id change).withPast past :=
  rfl

@[simp]
theorem notify_withPast (id : Nat) (outcome : Member → Outcome) :
    (t.withPast past).notify id outcome = (t.notify id outcome).withPast past := by
  have members : (t.withPast past).members = t.members := rfl
  simp only [notify, members, modifyMember_withPast, note_withPast, log_withPast]
  split
  · rfl
  split
  · rfl
  split <;> rfl

@[simp]
theorem notifyAll_withPast (outcome : Member → Outcome) :
    (t.withPast past).notifyAll outcome = (t.notifyAll outcome).withPast past := by
  have members : (t.withPast past).members = t.members := rfl
  rw [notifyAll, notifyAll, members]
  induction List.range t.members.length using List.reverseRecOn with
  | nil => rfl
  | append_singleton ids id inductionHypothesis =>
      simp only [List.foldl_append, List.foldl_cons, List.foldl_nil, inductionHypothesis,
        notify_withPast]

@[simp]
theorem callOnFailed_withPast (error : SharedError) :
    (t.withPast past).callOnFailed error = (t.callOnFailed error).withPast past := by
  rcases t with ⟨_, _, _, _, _, _, _ | callback, _, _, _, _⟩
  · rfl
  · simp [callOnFailed, withPast, note]

@[simp]
theorem settle_withPast (outcome : Except SharedError Unit) :
    (t.withPast past).settle outcome = (t.settle outcome).withPast past := by
  have moved (gate : Bool) (state : TransactionState) (t : Transaction) :
      ({ t.withPast past with gate := gate, state := state } : Transaction) =
        ({ t with gate := gate, state := state } : Transaction).withPast past := rfl
  cases outcome with
  | ok _ => exact notifyAll_withPast past { t with state := .committed } completed
  | error error =>
      simp only [settle, log_withPast, moved, notifyAll_withPast, callOnFailed_withPast]

/-! ## Running -/

@[simp]
theorem record_withPast (entry : BoundEntry) (outputs : List Output) :
    (t.withPast past).record entry outputs = (t.record entry outputs).withPast past := by
  rw [record, record]
  induction entry.statements.zip outputs generalizing t with
  | nil => rfl
  | cons executed _ inductionHypothesis =>
      rw [List.foldl_cons, List.foldl_cons, modifyMember_withPast, inductionHypothesis]

@[simp]
theorem logIfSlow_withPast (elapsed : Duration) (entry : BoundEntry) :
    (t.withPast past).logIfSlow elapsed entry = (t.logIfSlow elapsed entry).withPast past := by
  have threshold : (t.withPast past).slowQueryThreshold = t.slowQueryThreshold := rfl
  simp only [logIfSlow, threshold, log_withPast]
  split <;> rfl

@[simp]
theorem fail_withPast (error : Error) (next : SharedError → Option Phase) :
    (t.withPast past).fail error next =
      ((t.fail error next).1, (t.fail error next).2.withPast past) :=
  rfl

theorem resume_withPast (elapsed : Duration) (phase : Phase)
    (answer : Except Error phase.operation.Answer) :
    (t.withPast past).resume elapsed phase answer =
      ((t.resume elapsed phase answer).1, (t.resume elapsed phase answer).2.withPast past) := by
  cases phase with
  | execute entry rest =>
      cases answer with
      | error error => rfl
      | ok answer =>
          simp only [resume, logIfSlow_withPast]
          split
          · rfl
          · rw [record_withPast]
  | _ => cases answer <;> simp [resume]

variable {σ : Type} (backend : Backend σ)

theorem drive_withPast (run : Run) (t : Transaction) (state : σ) :
    (t.withPast past).drive backend run state =
      ((t.drive backend run state).1, (t.drive backend run state).2.1.withPast past,
        (t.drive backend run state).2.2) := by
  obtain ⟨phase, suspended⟩ := run
  rcases polled : backend.poll phase.operation suspended state with ⟨_ | answer, between⟩
  · rw [drive, drive, polled]
  · have noted := t.note_withPast past [.performed phase.operation (failure? answer)]
    have resumed := (t.note [.performed phase.operation (failure? answer)]).resume_withPast past
      (backend.elapsed phase.operation) phase answer
    rcases goesOn : (t.note [.performed phase.operation (failure? answer)]).resume
      (backend.elapsed phase.operation) phase answer with ⟨_ | next, u⟩
    · rw [goesOn, ← noted] at resumed
      rw [drive_of_last polled goesOn, drive_of_last polled resumed]
    · have := remaining_lt_of_resume goesOn
      rw [goesOn, ← noted] at resumed
      rw [drive_of_answered polled goesOn, drive_of_answered polled resumed]
      exact drive_withPast { phase := next } u between
termination_by run.phase.remaining

/-- A run ends alike from a transaction with another past. -/
theorem ends_withPast_iff {run : Run} {t v : Transaction} {state after : σ} :
    Ends backend run (t.withPast past) state v after ↔
      ∃ u, Ends backend run t state u after ∧ v = u.withPast past := by
  constructor
  · generalize same : t.withPast past = other
    intro ends
    induction ends generalizing t with
    | ended driven =>
        rw [← same, drive_withPast] at driven
        rcases here : t.drive backend _ _ with ⟨goesOn, u, later⟩
        rw [here] at driven
        cases driven
        exact ⟨u, .ended here, rfl⟩
    | suspended driven _ inductionHypothesis =>
        rw [← same, drive_withPast] at driven
        rcases here : t.drive backend _ _ with ⟨goesOn, u, later⟩
        rw [here] at driven
        cases driven
        obtain ⟨v, ends, rfl⟩ := inductionHypothesis rfl
        exact ⟨v, .suspended here ends, rfl⟩
  · rintro ⟨u, ends, rfl⟩
    induction ends with
    | ended driven => exact .ended (by rw [drive_withPast, driven])
    | suspended driven _ inductionHypothesis =>
        exact .suspended (by rw [drive_withPast, driven]) inductionHypothesis

theorem carryOn_withPast (run : Run) (state : σ) :
    (t.withPast past).carryOn backend run state =
      ((t.carryOn backend run state).1, (t.carryOn backend run state).2.1.withPast past,
        (t.carryOn backend run state).2.2) := by
  rw [carryOn, carryOn, drive_withPast]
  rcases t.drive backend run state with ⟨_ | _, _, _⟩ <;> rfl

theorem begin_withPast :
    (t.withPast past).begin = (t.begin.1, t.begin.2.withPast past) := by
  have settled (error : SharedError) :=
    settle_withPast past { t with gate := true, state := .executing } (.error error)
  have logged (event : LogEvent) := log_withPast past { t with gate := true } event
  have awaiting : (t.withPast past).awaiting = t.awaiting := rfl
  have members : (t.withPast past).members = t.members := rfl
  have expected : (t.withPast past).expected = t.expected := rfl
  have gate : (t.withPast past).gate = t.gate := rfl
  have state : (t.withPast past).state = t.state := rfl
  simp only [begin, refuse, awaiting, members, expected, gate, state, log_withPast]
  split
  · rfl
  split
  · rfl
  split
  · rfl
  split
  · exact congrArg _ (logged _)
  cases boundPlan t.members with
  | error error => exact congrArg _ (settled error)
  | ok entries => rfl

theorem execute_withPast (execution : Execution) (state : σ) :
    (t.withPast past).execute backend execution state =
      ((t.execute backend execution state).1, (t.execute backend execution state).2.1.withPast past,
        (t.execute backend execution state).2.2) := by
  cases execution with
  | running run => exact t.carryOn_withPast past backend run state
  | unstarted =>
      rw [execute, execute, begin_withPast]
      rcases t.begin with ⟨run | _, u⟩
      · exact u.carryOn_withPast past backend run state
      · rfl

/-! ## Participants -/

@[simp]
theorem startShared_withPast :
    (t.withPast past).startShared = t.startShared.withPast past := by
  rcases t with ⟨_, _, _, _, _, _, _, _ | shared, _, _, _⟩
  · simp [startShared, withPast, note]
  · rfl

@[simp]
theorem awaitStart_withPast (waker : Waker) :
    (t.withPast past).awaitStart waker = (t.awaitStart waker).withPast past := by
  have waiters : (t.withPast past).waiters = t.waiters := rfl
  simp only [awaitStart, waiters]
  split <;> rfl

theorem receive_withPast (id : Nat) :
    (t.withPast past).receive id = ((t.receive id).1, (t.receive id).2.withPast past) := by
  have delivered : (t.withPast past).delivered? id = t.delivered? id := rfl
  rw [receive, receive, delivered]
  cases t.delivered? id <;> rfl

theorem subscribeOnce_withPast (id : Nat) :
    (t.withPast past).subscribeOnce id = (t.subscribeOnce id).withPast past := by
  have polled : (t.withPast past).wasPolled id = t.wasPolled id := rfl
  have subscribed (t : Transaction) : (t.withPast past).markSubscribed id =
      ((t.markSubscribed id).1, (t.markSubscribed id).2.withPast past) := rfl
  simp only [subscribeOnce, polled, modifyMember_withPast, subscribed, startShared_withPast]
  split
  · rfl
  · split <;> rfl

theorem pollShared_withPast (shared : SharedExecution) (state : σ) :
    (t.withPast past).pollShared backend shared state =
      ((t.pollShared backend shared state).1, (t.pollShared backend shared state).2.1.withPast past,
        (t.pollShared backend shared state).2.2) := by
  cases shared with
  | finished result => rfl
  | active execution =>
      rw [pollShared, pollShared, execute_withPast]
      rcases t.execute backend execution state with ⟨_ | _ | _, _, _⟩ <;> rfl

theorem pollParticipant_withPast (id : Nat) (waker : Waker) (state : σ) :
    (t.withPast past).pollParticipant backend id waker state =
      ((t.pollParticipant backend id waker state).1,
        (t.pollParticipant backend id waker state).2.1.withPast past,
        (t.pollParticipant backend id waker state).2.2) := by
  rw [pollParticipant, pollParticipant, subscribeOnce_withPast]
  have same : ((t.subscribeOnce id).withPast past).shared = (t.subscribeOnce id).shared := rfl
  simp only [same]
  cases (t.subscribeOnce id).shared with
  | none => simp only [awaitStart_withPast, receive_withPast]
  | some shared =>
      simp only [pollShared_withPast]
      rcases (t.subscribeOnce id).pollShared backend shared state with ⟨_ | _ | _, u, later⟩
      · rfl
      · rfl
      · simp only [receive_withPast]

/-! ## Adding statements -/

theorem add_withPast (statement : Except Error Statement) (sink : Sink) :
    (t.withPast past).add statement sink =
      (t.add statement sink).map fun added => (added.1, added.2.withPast past) := by
  by_cases pending : t.state = .pending
  · have same : (t.withPast past).state = .pending := pending
    cases statement with
    | ok statement =>
        rw [add_ok pending, add_ok same]
        rfl
    | error error =>
        rw [add_error pending, add_error same]
        have registered : ((t.withPast past).share error).2.enroll
            (.error ((t.withPast past).share error).1) sink =
              ((t.share error).2.enroll (.error (t.share error).1) sink).withPast past := rfl
        rw [registered, log_withPast]
        exact congrArg (fun u => Except.ok (t.members.length, u)) (notify_withPast past _ _ _)
  · have same : (t.withPast past).state ≠ .pending := pending
    rw [add_of_not_pending pending, add_of_not_pending same]
    rfl

/-! ## Transactions which differ in what was logged -/

/-- Transactions are alike if they differ in nothing but the errors which were logged when they
were returned. -/
def Alike (t u : Transaction) : Prop :=
  ∃ core past other, t = withPast past core ∧ u = withPast other core ∧
    other.filter (!·.isReturned) = past.filter (!·.isReturned)

variable {t u : Transaction}

theorem Alike.refl (t : Transaction) : Alike t t :=
  ⟨t, [], [], rfl, rfl, rfl⟩

theorem Alike.eq (alike : Alike t u) : { u with history := t.history } = t := by
  obtain ⟨core, past, other, rfl, rfl, -⟩ := alike
  rfl

theorem Alike.history (alike : Alike t u) :
    u.history.filter (!·.isReturned) = t.history.filter (!·.isReturned) := by
  obtain ⟨core, past, other, rfl, rfl, same⟩ := alike
  simp only [withPast, List.filter_append, same]

theorem Alike.notices (alike : Alike t u) : u.notices = t.notices := by
  have heard (history : List Event) :
      history.filter Event.isNotice =
        (history.filter (!·.isReturned)).filter Event.isNotice := by
    rw [List.filter_filter]
    apply List.filter_congr
    rintro (_ | _ | _ | (_ | _) | _) - <;> rfl
  rw [Transaction.notices, Transaction.notices, heard, heard t.history, alike.history]

/-- A transaction is like the one where an error is logged which is returned. -/
theorem Alike.returned (alike : Alike t u) (error : Error) :
    Alike (t.log (.returned error)) u := by
  obtain ⟨core, past, other, rfl, rfl, same⟩ := alike
  refine ⟨{ core with history := [] }, past ++ core.history ++ [.logged (.returned error)],
    other ++ core.history, ?_, ?_, ?_⟩
  · simp [withPast, log, note]
  · simp [withPast]
  · rw [List.filter_append, List.filter_append, List.filter_append, same]
    exact (List.append_nil _).symm

end Transaction

end NamedSql
