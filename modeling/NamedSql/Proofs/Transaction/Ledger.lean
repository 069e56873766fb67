import NamedSql.Transaction.Participation
import NamedSql.Proofs.Plan

/-!
# The ledger of a transaction

The ledger is what the execution of a transaction depends on: its state, its gate,
its failure callback, one line for every statement, and what its sinks and its
callback were told.  Subscriptions, participants and log events are not part of
it.  Every operation either leaves the ledger alone or changes it in one plain
way.
-/

namespace NamedSql

/-- The line of a statement in the ledger. -/
structure Line where
  statement : Except SharedError Statement
  notified : Bool
  output : Option Output
  executed : Bool

/-- The line of a member. -/
def Member.line (member : Member) : Line :=
  ⟨member.statement, member.notified, member.output, member.executed⟩

/-- Whether an event is something which a sink or the failure callback is told. -/
def Event.isNotice : Event → Bool
  | .notified .. | .called .. => true
  | _ => false

/-- The ledger of a transaction. -/
structure Ledger where
  expected : Nat
  state : TransactionState
  gate : Bool
  onFailed : Option String
  lines : List Line
  notices : List Event

namespace Line

/-- The line of a statement which is added.  Only the sink of one which could not be
bound was told something. -/
def added (statement : Except SharedError Statement) : Line :=
  ⟨statement, (error? statement).isSome, none, false⟩

/-- The line after the sink was told the outcome. -/
def told (line : Line) : Line :=
  if line.notified then line else { line with notified := true, output := none }

/-- The line after its statement returned an output. -/
def recorded (output : Output) (line : Line) : Line :=
  { line with output := some output, executed := true }

/-- The outcome of the statement of a committed transaction. -/
def completed (line : Line) : Outcome :=
  .ok (line.output.getD (.affected 0))

end Line

/-- What the sink of a statement is told when the statement is added. -/
def earlyNotice (id : Nat) : Except SharedError Statement → List Event
  | .ok _ => []
  | .error error => [.notified id .pending (.error error)]

/-- What sinks are told while statements are added. -/
def earlyNotices (statements : List (Except SharedError Statement)) : List Event :=
  (statements.mapIdx earlyNotice).flatten

/-- What all sinks which were not told anything before are told in the end. -/
def lateNotices (state : TransactionState) (outcome : Line → Outcome) (lines : List Line) :
    List Event :=
  (lines.mapIdx fun id line =>
    if line.notified then [] else [Event.notified id state (outcome line)]).flatten

/-- What the failure callback is told. -/
def callbackNotice (callback : Option String) (error : SharedError) : List Event :=
  callback.toList.map (Event.called · .rolledBack error)

theorem earlyNotices_concat (statements : List (Except SharedError Statement))
    (statement : Except SharedError Statement) :
    earlyNotices (statements ++ [statement]) =
      earlyNotices statements ++ earlyNotice statements.length statement := by
  simp [earlyNotices, List.mapIdx_concat]

theorem lateNotices_concat (state : TransactionState) (outcome : Line → Outcome)
    (lines : List Line) (line : Line) :
    lateNotices state outcome (lines ++ [line]) =
      lateNotices state outcome lines ++
        if line.notified then [] else [.notified lines.length state (outcome line)] := by
  simp [lateNotices, List.mapIdx_concat]

namespace Ledger

/-- The ledger after a statement was added. -/
def add (statement : Except SharedError Statement) (ledger : Ledger) : Ledger :=
  { ledger with
    lines := ledger.lines ++ [.added statement]
    notices := ledger.notices ++ earlyNotice ledger.lines.length statement }

/-- The ledger after a run has ended. -/
def settle (outcome : Except SharedError Unit) (ledger : Ledger) : Ledger :=
  match outcome with
  | .ok () =>
    { ledger with
      state := .committed
      lines := ledger.lines.map Line.told
      notices := ledger.notices ++ lateNotices .committed Line.completed ledger.lines }
  | .error error =>
    { ledger with
      state := .rolledBack
      gate := false
      onFailed := none
      lines := ledger.lines.map Line.told
      notices := ledger.notices ++ lateNotices .rolledBack (fun _ => .error error) ledger.lines ++
        callbackNotice ledger.onFailed error }

end Ledger

/-- A view of a list in which one element is changed. -/
theorem map_modify {α β : Type} {elements : List α} {index : Nat} {change : α → α} {view : α → β}
    {changed : β → β}
    (same : ∀ element, elements[index]? = some element →
      view (change element) = changed (view element)) :
    (elements.modify index change).map view = (elements.map view).modify index changed := by
  apply List.ext_getElem?
  intro other
  rw [List.getElem?_map, List.getElem?_modify, List.getElem?_modify, List.getElem?_map]
  by_cases here : index = other
  · subst here
    cases found : elements[index]? with
    | none => rfl
    | some element => simp [same element found]
  · simp [here]

/-- A view of a list which does not show the change of an element. -/
theorem map_modify_of_same {α β : Type} {elements : List α} {index : Nat} {change : α → α}
    {view : α → β} (same : ∀ element, view (change element) = view element) :
    (elements.modify index change).map view = elements.map view := by
  have unchanged : (elements.modify index change).map view =
      (elements.map view).modify index id := map_modify fun element _ => same element
  rw [unchanged, List.modify_id]

namespace Transaction

/-- What the sinks and the failure callback were told, in order. -/
def notices (t : Transaction) : List Event :=
  t.history.filter Event.isNotice

/-- The ledger of a transaction. -/
def ledger (t : Transaction) : Ledger where
  expected := t.expected
  state := t.state
  gate := t.gate
  onFailed := t.onFailed
  lines := t.members.map Member.line
  notices := t.notices

/-! ## Operations which leave the ledger alone -/

variable (t : Transaction)

@[simp]
theorem ledger_log (event : LogEvent) : (t.log event).ledger = t.ledger := by
  simp [log, note, ledger, notices, Event.isNotice]

@[simp]
theorem ledger_share (error : Error) : (t.share error).2.ledger = t.ledger :=
  rfl

@[simp]
theorem ledger_performed (operation : Operation) (failure : Option Error) :
    (t.note [.performed operation failure]).ledger = t.ledger := by
  simp [note, ledger, notices, Event.isNotice]

theorem ledger_modifyMember (id : Nat) {change : Member → Member}
    (same : ∀ member, (change member).line = member.line) :
    (t.modifyMember id change).ledger = t.ledger := by
  have lines : (t.members.modify id change).map Member.line = t.members.map Member.line :=
    map_modify_of_same same
  simp only [modifyMember, ledger, lines]
  rfl

@[simp]
theorem line_modifyParticipant (change : Participant → Participant) (member : Member) :
    (member.modifyParticipant change).line = member.line := by
  rcases member with ⟨statement, _ | _, notified, output, subscribed, executed⟩ <;> rfl

@[simp]
theorem ledger_markSubscribed (id : Nat) : (t.markSubscribed id).2.ledger = t.ledger :=
  ledger_modifyMember t id fun _ => rfl

@[simp]
theorem ledger_markAllSubscribed : t.markAllSubscribed.ledger = t.ledger := by
  simp only [markAllSubscribed, ledger, List.map_map]
  rfl

@[simp]
theorem ledger_depart (id : Nat) : (t.depart id).ledger = t.ledger :=
  ledger_modifyMember t id (line_modifyParticipant _)

@[simp]
theorem ledger_startShared : t.startShared.ledger = t.ledger := by
  unfold startShared
  split
  · rfl
  · have unheard : (t.waiters.map Event.woken).filter Event.isNotice = [] := by
      simp [List.filter_eq_nil_iff, Event.isNotice]
    simp [note, ledger, notices, unheard]

@[simp]
theorem ledger_awaitStart (waker : Waker) : (t.awaitStart waker).ledger = t.ledger := by
  unfold awaitStart
  split <;> rfl

@[simp]
theorem ledger_receive (id : Nat) : (t.receive id).2.ledger = t.ledger := by
  unfold receive
  split
  · exact ledger_depart t id
  · rfl

@[simp]
theorem ledger_subscribeOnce (id : Nat) : (t.subscribeOnce id).ledger = t.ledger := by
  unfold subscribeOnce
  split
  · rfl
  · have polled := ledger_modifyMember t id
      (line_modifyParticipant fun p => { p with polled := true })
    simp only
    split
    · rw [ledger_startShared, ledger_markSubscribed, polled]
    · rw [ledger_markSubscribed, polled]

@[simp]
theorem ledger_logIfSlow (elapsed : Duration) (entry : BoundEntry) :
    (t.logIfSlow elapsed entry).ledger = t.ledger := by
  unfold logIfSlow
  split
  · exact ledger_log t _
  · rfl

end Transaction

end NamedSql
