import NamedSql.Proofs.Transaction.Framing

/-!
# Attendance

The attendance of a transaction is what its consumers have brought about: which
statements were added, which of them are subscribed, and what the shared execution has
come to.  Neither executing statements nor handing out outcomes changes it, and a
participant which was handed its outcome has a notice of that.
-/

namespace NamedSql

/-- The outcome which a sink was handed to keep it. -/
def Sink.delivered? : Sink → Option Outcome
  | .recorder .. => none
  | .participant consumer => consumer.delivered

namespace Member

/-- The outcome which the participant of a member was handed. -/
def delivered? (member : Member) : Option Outcome :=
  member.sink.delivered?

/-- A member after its sink was told an outcome. -/
def told (outcome : Outcome) (member : Member) : Member :=
  { member with sink := (member.sink.accept outcome).1, notified := true, output := none }

/-- Nothing but the outcome which it is told is handed to a participant. -/
theorem delivered?_told {outcome received : Outcome} {member : Member}
    (handed : (member.told outcome).delivered? = some received) :
    received = outcome ∨ member.delivered? = some received := by
  rcases member with ⟨statement, name | ⟨polled, _ | _, delivered⟩, notified, output⟩
  · exact .inr handed
  · exact .inl (Option.some.inj handed).symm
  · exact .inr handed

end Member

/-- What the consumers of a transaction have brought about. -/
structure Attendance where
  expected : Nat
  statements : List (Except SharedError Statement)
  awaiting : List Nat
  shared : Option SharedExecution
  /-- Which statements are subscribed. -/
  subscribed : List Bool

namespace Attendance

/-- The attendance after a statement was registered. -/
def enroll (statement : Except SharedError Statement) (attendance : Attendance) : Attendance :=
  { attendance with
    statements := attendance.statements ++ [statement]
    awaiting := attendance.awaiting ++ [attendance.subscribed.length]
    subscribed := attendance.subscribed ++ [false] }

/-- The attendance after a statement was subscribed. -/
def subscribe (id : Nat) (attendance : Attendance) : Attendance :=
  { attendance with
    awaiting := attendance.awaiting.erase id
    subscribed := attendance.subscribed.modify id fun _ => true }

/-- The attendance after all statements were subscribed. -/
def subscribeAll (attendance : Attendance) : Attendance :=
  { attendance with awaiting := [], subscribed := attendance.subscribed.map fun _ => true }

end Attendance

namespace Transaction

/-- The attendance of a transaction. -/
def attendance (t : Transaction) : Attendance where
  expected := t.expected
  statements := t.members.map Member.statement
  awaiting := t.awaiting
  shared := t.shared
  subscribed := t.members.map Member.subscribed

/-- Telling a sink its first outcome changes this member only. -/
theorem notify_of_untold {t : Transaction} {id : Nat} {member : Member} (found : t.members[id]? = some member)
    (untold : member.notified = false) (outcome : Member → Outcome) :
    (t.notify id outcome).members = t.members.modify id (Member.told (outcome member)) ∧
      (t.notify id outcome).state = t.state ∧ (t.notify id outcome).shared = t.shared := by
  have members : (t.members.modify id fun other =>
      { other with
        sink := (member.sink.accept (outcome member)).1
        notified := true
        output := none }) = t.members.modify id (Member.told (outcome member)) := by
    apply List.ext_getElem?
    intro other
    rw [List.getElem?_modify, List.getElem?_modify]
    by_cases same : id = other
    · subst same
      simp [found, Member.told]
    · simp [same]
  simp only [notify, found, untold, Bool.false_eq_true, if_false]
  split <;> exact ⟨members, rfl, rfl⟩

/-- Every outcome which was handed to a participant was noticed. -/
def Informed (t : Transaction) : Prop :=
  ∀ id outcome, t.delivered? id = some outcome → ∃ state, .notified id state outcome ∈ t.notices

theorem delivered?_eq (t : Transaction) (id : Nat) :
    t.delivered? id = t.members[id]?.bind Member.delivered? := by
  unfold delivered?
  cases t.members[id]? with
  | none => rfl
  | some member => rcases member with ⟨_, _ | _⟩ <;> rfl

/-- Nobody was handed anything, and no notice got lost. -/
theorem informed_of_delivered {before after : Transaction}
    (delivered : ∀ id outcome, after.delivered? id = some outcome →
      before.delivered? id = some outcome)
    (notices : before.notices ⊆ after.notices) (informed : before.Informed) : after.Informed := by
  intro id outcome received
  obtain ⟨state, noticed⟩ := informed id outcome (delivered id outcome received)
  exact ⟨state, notices noticed⟩

theorem delivered?_modifyMember (t : Transaction) (id : Nat) {change : Member → Member}
    (delivered : ∀ member, (change member).delivered? = member.delivered?) (other : Nat) :
    (t.modifyMember id change).delivered? other = t.delivered? other := by
  rw [delivered?_eq, delivered?_eq, modifyMember, List.getElem?_modify]
  split <;> cases t.members[other]? <;> simp [delivered]

/-- Whether the sink of a statement was told the outcome. -/
def wasTold (id : Nat) (t : Transaction) : Bool :=
  t.members[id]?.any Member.notified

/-- Who was told the outcome keeps what he was handed. -/
def Told (before after : Transaction) : Prop :=
  ∀ id, before.wasTold id = true →
    after.wasTold id = true ∧ after.delivered? id = before.delivered? id

/-- A transaction was changed, but what its consumers have brought about was kept. -/
structure Keeps (before after : Transaction) : Prop where
  attendance : after.attendance = before.attendance
  begun : before.state ≠ .pending → after.state ≠ .pending
  informed : before.Informed → after.Informed
  notices : before.notices ⊆ after.notices
  told : Told before after

theorem wasTold_eq (t : Transaction) (id : Nat) :
    t.wasTold id = (t.members.map Member.notified)[id]?.any fun notified => notified := by
  rw [wasTold, List.getElem?_map]
  cases t.members[id]? <;> rfl

/-- Nobody was told or handed anything. -/
theorem told_of_delivered {before after : Transaction}
    (delivered : ∀ id, after.delivered? id = before.delivered? id)
    (notified : after.members.map Member.notified = before.members.map Member.notified) :
    Told before after := by
  intro id told
  constructor
  · rw [wasTold_eq, notified, ← wasTold_eq]
    exact told
  · exact delivered id

namespace Told

variable {before between after : Transaction}

theorem refl (t : Transaction) : Told t t :=
  fun _ told => ⟨told, rfl⟩

theorem trans (first : Told before between) (second : Told between after) :
    Told before after := by
  intro id told
  obtain ⟨still, earlier⟩ := first id told
  obtain ⟨always, later⟩ := second id still
  exact ⟨always, later.trans earlier⟩

end Told

namespace Keeps

variable {t before between after : Transaction}

theorem refl (t : Transaction) : Keeps t t :=
  ⟨rfl, id, id, List.Subset.refl _, .refl t⟩

theorem trans (first : Keeps before between) (second : Keeps between after) :
    Keeps before after :=
  ⟨second.attendance.trans first.attendance, second.begun ∘ first.begun,
    second.informed ∘ first.informed, List.Subset.trans first.notices second.notices,
    first.told.trans second.told⟩

theorem of_delivered (attendance : after.attendance = before.attendance)
    (begun : before.state ≠ .pending → after.state ≠ .pending)
    (delivered : ∀ id, after.delivered? id = before.delivered? id)
    (notices : before.notices ⊆ after.notices)
    (notified : after.members.map Member.notified = before.members.map Member.notified) :
    Keeps before after := by
  refine ⟨attendance, begun, informed_of_delivered ?_ notices, notices,
    told_of_delivered delivered notified⟩
  intro id outcome received
  rwa [delivered] at received

end Keeps

/-! ## What an execution does -/

variable (t : Transaction)

theorem keeps_note (events : List Event) : Keeps t (t.note events) := by
  refine .of_delivered rfl (fun begun => begun) (fun _ => rfl) ?_ rfl
  intro event noticed
  simp only [notices, note, List.filter_append, List.mem_append] at noticed ⊢
  exact .inl noticed

theorem keeps_log (event : LogEvent) : Keeps t (t.log event) :=
  t.keeps_note _

theorem keeps_share (error : Error) : Keeps t (t.share error).2 :=
  .of_delivered rfl (fun begun => begun) (fun _ => rfl) (List.Subset.refl _) rfl

theorem keeps_modifyMember (id : Nat) {change : Member → Member}
    (statement : ∀ member, (change member).statement = member.statement)
    (subscribed : ∀ member, (change member).subscribed = member.subscribed)
    (delivered : ∀ member, (change member).delivered? = member.delivered?)
    (notified : ∀ member, (change member).notified = member.notified) :
    Keeps t (t.modifyMember id change) := by
  refine .of_delivered ?_ (fun begun => begun) (t.delivered?_modifyMember id delivered)
    (List.Subset.refl _) (map_modify_of_same notified)
  simp only [attendance, modifyMember, map_modify_of_same statement,
    map_modify_of_same subscribed]

/-- Telling a member is noticed, and leaves those alone who were told before. -/
theorem keeps_told {id : Nat} {member : Member} (found : t.members[id]? = some member)
    (untold : member.notified = false) {sink : Sink} {outcome : Outcome}
    (accepted : (member.sink.accept outcome).1 = sink) :
    Keeps t ((t.modifyMember id fun member =>
        { member with sink := sink, notified := true, output := none }).note
      [.notified id t.state outcome]) := by
  subst accepted
  let change (other : Member) : Member :=
    { other with sink := (member.sink.accept outcome).1, notified := true, output := none }
  have statements : (t.members.modify id change).map Member.statement =
      t.members.map Member.statement := map_modify_of_same fun _ => rfl
  have subscribed : (t.members.modify id change).map Member.subscribed =
      t.members.map Member.subscribed := map_modify_of_same fun _ => rfl
  have noticed := (t.modifyMember id change).keeps_note [.notified id t.state outcome]
  refine ⟨?_, fun begun => begun, ?_, noticed.notices, ?_⟩
  · simp only [attendance, modifyMember, note]
    rw [statements, subscribed]
  · intro informed other received handed
    have earlier (handed : t.delivered? other = some received) :
        ∃ state, Event.notified other state received ∈
          (t.history ++ [Event.notified id t.state outcome]).filter Event.isNotice := by
      obtain ⟨state, noticed⟩ := informed other received handed
      exact ⟨state, by rw [List.filter_append]; exact List.mem_append_left _ noticed⟩
    rw [delivered?_eq] at handed earlier
    simp only [note, modifyMember, List.getElem?_modify] at handed
    split at handed
    next same =>
      subst same
      rw [found] at handed earlier
      rcases Member.delivered?_told handed with rfl | before
      · exact ⟨t.state, by simp [notices, note, modifyMember, Event.isNotice]⟩
      · exact earlier before
    next => exact earlier (by simpa using handed)
  · intro other told
    have different : id ≠ other := by
      rintro rfl
      rw [wasTold, found, Option.any_some, untold] at told
      cases told
    have same : (t.members.modify id change)[other]? = t.members[other]? := by
      simp [different]
    rw [delivered?_eq, delivered?_eq]
    constructor
    · exact (congrArg (Option.any Member.notified) same).trans told
    · exact congrArg (Option.bind · Member.delivered?) same

theorem keeps_notify (id : Nat) (outcome : Member → Outcome) :
    Keeps t (t.notify id outcome) := by
  unfold notify
  cases found : t.members[id]? with
  | none => exact .refl t
  | some member =>
      simp only
      cases untold : member.notified with
      | true => exact .refl t
      | false =>
          rw [if_neg Bool.false_ne_true]
          split
          · exact t.keeps_told found untold rfl
          · exact (t.keeps_told found untold rfl).trans (keeps_log _ _)

/-- Everything which an execution does keeps what its consumers have brought about. -/
theorem framing_keeps : Framing Keeps where
  refl := .refl
  trans := .trans
  note event t _ := t.keeps_note [event]
  share error t := t.keeps_share error
  move _ _ _ begun :=
    .of_delivered rfl (fun _ => begun) (fun _ => rfl) (List.Subset.refl _) rfl
  hush _ := .of_delivered rfl (fun begun => begun) (fun _ => rfl) (List.Subset.refl _) rfl
  notify id outcome t := t.keeps_notify id outcome
  record id _ t :=
    t.keeps_modifyMember id (fun _ => rfl) (fun _ => rfl) (fun _ => rfl) fun _ => rfl

variable {σ : Type} (backend : Backend σ)

theorem keeps_carryOn (run : Run) (state : σ) : Keeps t (t.carryOn backend run state).2.1 :=
  framing_keeps.carryOn t backend run state

theorem keeps_execute (execution : Execution) (state : σ) :
    Keeps t (t.execute backend execution state).2.1 :=
  framing_keeps.execute t backend execution state

/-! ## What adding a statement does -/

theorem attendance_enroll (statement : Except SharedError Statement) (sink : Sink) :
    (t.enroll statement sink).attendance = t.attendance.enroll statement := by
  simp [enroll, attendance, Attendance.enroll]

/-- Apart from its registration, adding a statement keeps the attendance. -/
theorem keeps_add {statement : Except Error Statement} {sink : Sink} {id : Nat}
    {after : Transaction} (added : t.add statement sink = .ok (id, after)) :
    Keeps (t.enroll (t.identified statement) sink) after := by
  have pending := (pending_of_add added).1
  cases statement with
  | ok statement =>
      have same := (add_ok pending statement sink).symm.trans added
      obtain ⟨-, rfl⟩ := Prod.mk.inj (Except.ok.inj same)
      exact .refl _
  | error error =>
      have same := (add_error pending error sink).symm.trans added
      obtain ⟨-, rfl⟩ := Prod.mk.inj (Except.ok.inj same)
      have shared : Keeps (t.enroll (.error (t.share error).1) sink)
          ((t.share error).2.enroll (.error (t.share error).1) sink) :=
        .of_delivered rfl (fun begun => begun) (fun _ => rfl) (List.Subset.refl _) rfl
      exact (shared.trans (keeps_log _ _)).trans (keeps_notify _ _ _)

/-! ## What participants do -/

theorem keeps_depart (id : Nat) : Keeps t (t.depart id) := by
  apply t.keeps_modifyMember id
  all_goals
    rintro ⟨statement, name | participant⟩ <;> rfl

theorem keeps_polled (id : Nat) :
    Keeps t (t.modifyMember id (Member.modifyParticipant fun p => { p with polled := true })) := by
  apply t.keeps_modifyMember id
  all_goals
    rintro ⟨statement, name | participant⟩ <;> rfl

theorem keeps_awaitStart (waker : Waker) : Keeps t (t.awaitStart waker) := by
  unfold awaitStart
  split
  · exact .refl t
  · exact .of_delivered rfl (fun begun => begun) (fun _ => rfl) (List.Subset.refl _) rfl

theorem keeps_receive (id : Nat) : Keeps t (t.receive id).2 := by
  unfold receive
  split
  · exact t.keeps_depart id
  · exact .refl t

theorem attendance_markSubscribed (id : Nat) :
    (t.markSubscribed id).2.attendance = t.attendance.subscribe id := by
  have statements : (t.members.modify id Member.subscribe).map Member.statement =
      t.members.map Member.statement := map_modify_of_same fun _ => rfl
  have subscribed : (t.members.modify id Member.subscribe).map Member.subscribed =
      (t.members.map Member.subscribed).modify id fun _ => true := map_modify fun _ _ => rfl
  simp only [markSubscribed, modifyMember, attendance, statements, subscribed]
  rfl

/-- The last awaited statement is subscribed exactly if statements were awaited, and none is any
more. -/
theorem markSubscribed_eq_true_iff (id : Nat) :
    (t.markSubscribed id).1 = true ↔
      t.awaiting ≠ [] ∧ (t.markSubscribed id).2.awaiting = [] := by
  have last : (t.markSubscribed id).1 = true ↔ id ∈ t.awaiting ∧ t.awaiting.erase id = [] := by
    simp [markSubscribed]
  rw [last]
  constructor
  · rintro ⟨awaited, none⟩
    exact ⟨List.ne_nil_of_mem awaited, none⟩
  · rintro ⟨some, none⟩
    refine ⟨?_, none⟩
    by_contra unawaited
    -- Then as many are awaited as before.
    exact some ((List.erase_of_not_mem unawaited).symm.trans none)

theorem attendance_markAllSubscribed :
    t.markAllSubscribed.attendance = t.attendance.subscribeAll := by
  simp [markAllSubscribed, attendance, Attendance.subscribeAll, Function.comp_def,
    Member.subscribe]

theorem attendance_startShared :
    t.startShared.attendance =
      { t.attendance with shared := some (t.shared.getD (.active .unstarted)) } := by
  unfold startShared
  cases shared : t.shared with
  | none => rfl
  | some execution => simp [attendance, shared]

/-- The first poll of a participant subscribes its statement.  The poll which subscribes
the last one starts the shared execution. -/
theorem attendance_subscribeOnce (id : Nat) :
    (t.subscribeOnce id).attendance = t.attendance ∨
      (t.subscribeOnce id).attendance = t.attendance.subscribe id ∨
      t.awaiting ≠ [] ∧ (t.attendance.subscribe id).awaiting = [] ∧
        (t.subscribeOnce id).attendance =
          { t.attendance.subscribe id with
            shared := some (t.shared.getD (.active .unstarted)) } := by
  unfold subscribeOnce
  split
  · exact .inl rfl
  · have polled := (t.keeps_polled id).attendance
    simp only
    generalize t.modifyMember id _ = s at polled ⊢
    have awaiting : s.awaiting = t.awaiting := congrArg Attendance.awaiting polled
    have shared : s.shared = t.shared := congrArg Attendance.shared polled
    rw [← awaiting, ← shared, ← polled]
    split
    next last =>
      obtain ⟨awaited, none⟩ := (s.markSubscribed_eq_true_iff id).mp last
      refine .inr (.inr ⟨awaited, none, ?_⟩)
      rw [attendance_startShared, attendance_markSubscribed]
      rfl
    next => exact .inr (.inl (s.attendance_markSubscribed id))

/-- How the result of the shared execution is kept. -/
inductive Shared : Progress → Option (Except SharedError Unit) → SharedExecution → Prop
  | suspended (run : Run) : Shared (.suspended run) none (.active (.running run))
  | completed : Shared (.finished (.ok ())) (some (.ok ())) (.finished (.ok ()))
  | refused (error : SharedError) :
      Shared (.finished (.error error.error)) (some (.error error)) (.finished (.error error))

/-- Polling the shared execution polls the execution and keeps its result. -/
theorem pollShared_active {execution : Execution} {state later : σ} {progress : Progress}
    {after : Transaction} (polled : t.execute backend execution state = (progress, after, later)) :
    ∃ result shared errors,
      t.pollShared backend (.active execution) state =
        (result, { after with shared := some shared, errors := errors }, later) ∧
      Shared progress result shared := by
  unfold pollShared
  simp only [polled]
  rcases progress with run | ⟨error | _⟩
  · exact ⟨_, _, after.errors, rfl, .suspended run⟩
  · exact ⟨_, _, _, rfl, .refused ⟨after.errors, error⟩⟩
  · exact ⟨_, _, after.errors, rfl, .completed⟩

/-- The ways in which the poll of a participant ends whose statement is subscribed. -/
inductive Visit (id : Nat) (waker : Waker) (state : σ) : Option Outcome × Transaction × σ → Prop
  | early (idle : t.shared = none) : Visit id waker state
      (((t.awaitStart waker).receive id).1, ((t.awaitStart waker).receive id).2, state)
  | suspended {shared : SharedExecution} {after : Transaction} {later : σ}
      (started : t.shared = some shared)
      (polled : t.pollShared backend shared state = (none, after, later)) :
      Visit id waker state (none, after, later)
  | refused {shared : SharedExecution} {error : SharedError} {after : Transaction} {later : σ}
      (started : t.shared = some shared)
      (polled : t.pollShared backend shared state = (some (.error error), after, later)) :
      Visit id waker state (some (.error error), after.depart id, later)
  | completed {shared : SharedExecution} {after : Transaction} {later : σ}
      (started : t.shared = some shared)
      (polled : t.pollShared backend shared state = (some (.ok ()), after, later)) :
      Visit id waker state ((after.receive id).1, (after.receive id).2, later)

theorem visit (id : Nat) (waker : Waker) (state : σ) :
    (t.subscribeOnce id).Visit backend id waker state
      (t.pollParticipant backend id waker state) := by
  unfold pollParticipant
  generalize t.subscribeOnce id = t
  cases started : t.shared with
  | none =>
      simp only [started]
      exact .early started
  | some shared =>
      simp only [started]
      rcases polled : t.pollShared backend shared state with ⟨_ | ⟨error | _⟩, after, later⟩
      · exact .suspended started polled
      · exact .refused started polled
      · exact .completed started polled

/-- Nothing changed but participants and those who wait. -/
structure Tends (before after : Transaction) : Prop where
  keeps : Keeps before after
  ledger : after.ledger = before.ledger

theorem tends_depart (id : Nat) : Tends t (t.depart id) :=
  ⟨t.keeps_depart id, t.ledger_depart id⟩

theorem tends_receive (id : Nat) : Tends t (t.receive id).2 :=
  ⟨t.keeps_receive id, t.ledger_receive id⟩

/-- What the poll of a participant whose statement is subscribed does, whatever it
resolves with: at most it polls the shared execution. -/
inductive Visited (state : σ) : Transaction × σ → Prop
  | early {after : Transaction} (idle : t.shared = none) (tends : Tends t after) :
      Visited state (after, state)
  | shared {shared : SharedExecution} {result : Option (Except SharedError Unit)}
      {polled after : Transaction} {later : σ} (started : t.shared = some shared)
      (shares : t.pollShared backend shared state = (result, polled, later))
      (tends : Tends polled after) : Visited state (after, later)

theorem visited (id : Nat) (waker : Waker) (state : σ) :
    (t.subscribeOnce id).Visited backend state (t.pollParticipant backend id waker state).2 := by
  have visit := t.visit backend id waker state
  generalize t.pollParticipant backend id waker state = result at visit ⊢
  cases visit with
  | early idle =>
      apply Visited.early idle
      constructor
      · exact (keeps_awaitStart _ waker).trans (keeps_receive _ id)
      · exact (ledger_receive _ id).trans (ledger_awaitStart _ waker)
  | suspended started polled => exact .shared started polled ⟨.refl _, rfl⟩
  | refused started polled => exact .shared started polled (tends_depart _ id)
  | completed started polled => exact .shared started polled (tends_receive _ id)

end Transaction

end NamedSql
