import NamedSql.Transaction.Run

/-!
# Participants

A participant waits for the outcome of one statement.  Its first poll subscribes
the statement.  The participant which subscribes the last statement starts an
execution which belongs to the transaction: whichever participant is polled next
carries it on, so that dropping participants never abandons it.
-/

namespace NamedSql.Transaction

variable {σ : Type}

/-- Add a statement which a participant consumes. -/
def participate (statement : Except Error Statement) (t : Transaction) :
    Except Error (Nat × Transaction) :=
  t.add statement (.participant {})

/-- Start the shared execution, unless it was started before, and wake everyone
who waits for that. -/
def startShared (t : Transaction) : Transaction :=
  match t.shared with
  | some _ => t
  | none =>
    { t with shared := some (.active .unstarted), waiters := [] }.note (t.waiters.map .woken)

/-- Wait for the shared execution to start.  A waker which is among the waiters
is not added again. -/
def awaitStart (waker : Waker) (t : Transaction) : Transaction :=
  if t.waiters.contains waker then t else { t with waiters := t.waiters ++ [waker] }

/-- Poll the shared execution: its result if it is finished.  An error is kept as
one error for all participants. -/
def pollShared (backend : Backend σ) (shared : SharedExecution) (t : Transaction) (state : σ) :
    Option (Except SharedError Unit) × Transaction × σ :=
  match shared with
  | .finished result => (some result, t, state)
  | .active execution =>
    match t.execute backend execution state with
    | (.suspended run, t, state) =>
      (none, { t with shared := some (.active (.running run)) }, state)
    | (.finished (.ok ()), t, state) =>
      (some (.ok ()), { t with shared := some (.finished (.ok ())) }, state)
    | (.finished (.error error), t, state) =>
      let (error, t) := t.share error
      (some (.error error), { t with shared := some (.finished (.error error)) }, state)

/-- The outcome which was delivered to a participant. -/
def delivered? (id : Nat) (t : Transaction) : Option Outcome := do
  let member ← t.members[id]?
  let participant ← member.participant?
  participant.delivered

/-- Drop a participant. -/
def depart (id : Nat) (t : Transaction) : Transaction :=
  t.modifyMember id (Member.modifyParticipant fun p => { p with gone := true })

/-- Take the outcome of a participant, if it was delivered.  The participant is
gone then. -/
def receive (id : Nat) (t : Transaction) : Option Outcome × Transaction :=
  match t.delivered? id with
  | some outcome => (some outcome, t.depart id)
  | none => (none, t)

/-- Whether a participant is still there. -/
def isPresent (id : Nat) (t : Transaction) : Bool :=
  (t.members[id]?.bind Member.participant?).any (!·.gone)

/-- Whether a participant was polled. -/
def wasPolled (id : Nat) (t : Transaction) : Bool :=
  (t.members[id]?.bind Member.participant?).any (·.polled)

/-- Subscribe the statement of a participant on its first poll, and start the
shared execution if no other statement is awaited. -/
def subscribeOnce (id : Nat) (t : Transaction) : Transaction :=
  if t.wasPolled id then t
  else
    let t := t.modifyMember id (Member.modifyParticipant fun p => { p with polled := true })
    let (last, t) := t.markSubscribed id
    if last then t.startShared else t

/-- Poll a participant which is still there.  It resolves with the error of the
shared execution if that was refused, and else with its own outcome as soon as it
was delivered and the execution, if started, has ended. -/
def pollParticipant (backend : Backend σ) (id : Nat) (waker : Waker) (t : Transaction)
    (state : σ) : Option Outcome × Transaction × σ :=
  let t := t.subscribeOnce id
  match t.shared with
  | none =>
    let (outcome, t) := (t.awaitStart waker).receive id
    (outcome, t, state)
  | some shared =>
    match t.pollShared backend shared state with
    | (none, t, state) => (none, t, state)
    | (some (.error error), t, state) => (some (.error error), t.depart id, state)
    | (some (.ok ()), t, state) =>
      let (outcome, t) := t.receive id
      (outcome, t, state)

end NamedSql.Transaction
