import NamedSql.Call
import NamedSql.Proofs.Scene.Delivery
import NamedSql.Proofs.Scene.Verdict

/-!
# Joining calls

Calls can always be joined into a transaction with as many members as it expects, each
with a participant of its own.  When such a participant is polled, the shared execution is
not refused, and whoever was handed an outcome resolves with it.
-/

namespace NamedSql

open Ledger (Standing)
open Exchange (answers)

/-! ## Joining calls -/

/-- A member whose participant nobody has polled or dropped yet.  The participant of one
which could not be bound was handed the error. -/
structure Member.Newcomer (member : Member) : Prop where
  present : member.participant?.any (!·.gone) = true
  unsubscribed : member.subscribed = false
  forewarned : ∀ error, member.statement = .error error →
    member.notified = true ∧ member.delivered? = some (.error error)

namespace Transaction

variable {t : Transaction}

/-- A participant joins a pending transaction as a newcomer. -/
theorem participate_of_pending (pending : t.state = .pending)
    (statement : Except Error Statement) :
    ∃ member after, t.participate statement = .ok (t.members.length, after) ∧
      after.members = t.members ++ [member] ∧ member.Newcomer ∧
      member.statement = t.identified statement ∧ after.state = .pending ∧
      after.shared = t.shared := by
  cases statement with
  | ok statement =>
      refine ⟨_, _, add_ok pending statement _, rfl, ⟨rfl, rfl, ?_⟩, rfl, pending, rfl⟩
      intro error failed
      cases failed
  | error error =>
      let member : Member :=
        { statement := .error (t.share error).1, sink := .participant {} }
      have found : (((t.share error).2.enroll (.error (t.share error).1) (.participant {})).log
          (.failedBeforeExecution t.members.length)).members[t.members.length]? = some member :=
        List.getElem?_concat_length
      obtain ⟨members, state, shared⟩ :=
        notify_of_untold found rfl fun _ => .error (t.share error).1
      have told := modify_length_append (Member.told (.error (t.share error).1)) t.members
        member []
      refine ⟨_, _, add_error pending error _, members.trans told, ⟨rfl, rfl, ?_⟩, rfl,
        state.trans pending, shared⟩
      intro other failed
      cases failed
      exact ⟨rfl, rfl⟩

/-- Whoever consumes a statement which could not be bound was handed its error. -/
def Forewarned (t : Transaction) : Prop :=
  ∀ id error, t.attendance.statements[id]? = some (.error error) →
    t.wasTold id = true ∧ t.delivered? id = some (.error error)

/-- The participants of a pending transaction are those of the given calls, and none of
them was polled or dropped yet. -/
structure Joining (calls : List Call) (t : Transaction) : Prop where
  pending : t.state = .pending
  idle : t.shared = none
  statements : t.attendance.statements.map (·.mapError SharedError.error) =
    calls.map Call.statement
  newcomers : ∀ member ∈ t.members, member.Newcomer

namespace Joining

variable {calls : List Call}

/-- One more call joins. -/
theorem participate (joining : t.Joining calls) (call : Call) :
    ∃ id after, t.participate call.statement = .ok (id, after) ∧
      after.Joining (calls ++ [call]) := by
  obtain ⟨member, after, added, members, newcomer, statement, pending, shared⟩ :=
    participate_of_pending joining.pending call.statement
  refine ⟨_, after, added, pending, shared.trans joining.idle, ?_, ?_⟩
  · have bound : member.statement.mapError SharedError.error = call.statement := by
      rw [statement, mapError_identified]
    have earlier := joining.statements
    simp only [attendance] at earlier ⊢
    rw [members, List.map_append, List.map_append, List.map_append, earlier, List.map_singleton,
      List.map_singleton, List.map_singleton, bound]
  · rw [members]
    intro other among
    rcases List.mem_append.mp among with earlier | new
    · exact joining.newcomers other earlier
    · rw [List.mem_singleton.mp new]
      exact newcomer

theorem length (joining : t.Joining calls) : t.members.length = calls.length := by
  have statements := congrArg List.length joining.statements
  simpa [attendance] using statements

theorem newcomer (joining : t.Joining calls) {id : Nat} (inside : id < calls.length) :
    ∃ member, t.members[id]? = some member ∧ member.Newcomer := by
  rw [← joining.length] at inside
  exact ⟨_, List.getElem?_eq_getElem inside, joining.newcomers _ (List.getElem_mem inside)⟩

theorem isPresent (joining : t.Joining calls) {id : Nat} (inside : id < calls.length) :
    t.isPresent id = true := by
  obtain ⟨member, found, newcomer⟩ := joining.newcomer inside
  rw [Transaction.isPresent, found]
  exact newcomer.present

theorem unsubscribed (joining : t.Joining calls) (id : Nat) :
    t.attendance.subscribed[id]? ≠ some true := by
  intro subscribed
  simp only [attendance, List.getElem?_map, Option.map_eq_some_iff] at subscribed
  obtain ⟨member, found, subscribed⟩ := subscribed
  have unsubscribed := (joining.newcomers member (List.mem_of_getElem? found)).unsubscribed
  rw [subscribed] at unsubscribed
  cases unsubscribed

theorem forewarned (joining : t.Joining calls) : t.Forewarned := by
  intro id error failed
  simp only [attendance, List.getElem?_map, Option.map_eq_some_iff] at failed
  obtain ⟨member, found, failed⟩ := failed
  have newcomer := joining.newcomers member (List.mem_of_getElem? found)
  obtain ⟨told, handed⟩ := newcomer.forewarned error failed
  constructor
  · rw [wasTold, found]
    exact told
  · rw [delivered?_eq, found]
    exact handed

end Joining

/-! ## Polling the participant of a joined call -/

section Poll

variable {σ : Type} (backend : Backend σ) {expected : Nat}

/-- Apart from its result, polling the shared execution keeps the attendance. -/
theorem attendance_pollShared {shared : SharedExecution} (started : t.shared = some shared)
    (state : σ) :
    ∃ later, (t.pollShared backend shared state).2.1.attendance =
      { t.attendance with shared := some later } := by
  cases shared with
  | finished result =>
      have same : t.attendance.shared = some (.finished result) := started
      exact ⟨_, by rw [← same]; rfl⟩
  | active execution =>
      have kept := (t.keeps_execute backend execution state).attendance
      rcases polled : t.execute backend execution state with ⟨progress, after, later⟩
      obtain ⟨_, shared, _, finished, -⟩ := t.pollShared_active backend polled
      rw [polled] at kept
      refine ⟨shared, ?_⟩
      rw [finished, ← kept]
      rfl

/-- Apart from the result of the shared execution, the poll of a participant changes the
attendance only by the subscription of its statement. -/
theorem attendance_pollParticipant (t : Transaction) (id : Nat) (waker : Waker) (state : σ) :
    ∃ shared, (t.pollParticipant backend id waker state).2.1.attendance =
        { (t.subscribeOnce id).attendance with shared := shared } ∧
      (shared = none → (t.subscribeOnce id).attendance.shared = none) := by
  have visited := t.visited backend id waker state
  generalize (t.pollParticipant backend id waker state).2 = result at visited ⊢
  cases visited with
  | early _ tends => exact ⟨_, tends.keeps.attendance, fun idle => idle⟩
  | shared started polled tends =>
      obtain ⟨later, same⟩ := attendance_pollShared backend started state
      rw [polled] at same
      exact ⟨some later, tends.keeps.attendance.trans same, nofun⟩

/-- Apart from the shared execution, the poll of a participant leaves the attendance as it is or
subscribes its statement. -/
theorem exists_attendance_pollParticipant (t : Transaction) (id : Nat) (waker : Waker) (state : σ) :
    ∃ shared,
      (t.pollParticipant backend id waker state).2.1.attendance =
          { t.attendance with shared := shared } ∨
        (t.pollParticipant backend id waker state).2.1.attendance =
          { t.attendance.subscribe id with shared := shared } := by
  obtain ⟨shared, polled, -⟩ := attendance_pollParticipant backend t id waker state
  refine ⟨shared, ?_⟩
  rw [polled]
  rcases t.attendance_subscribeOnce id with same | same | ⟨-, -, same⟩
  · exact .inl (by rw [same])
  · exact .inr (by rw [same])
  · exact .inr (by rw [same])

/-- The poll of a participant adds no statement and subscribes no other one. -/
theorem attended_pollParticipant (t : Transaction) (id : Nat) (waker : Waker) (state : σ) :
    (t.pollParticipant backend id waker state).2.1.attendance.statements =
        t.attendance.statements ∧
      ∀ other, (t.pollParticipant backend id waker state).2.1.attendance.subscribed[other]? =
        some true → t.attendance.subscribed[other]? = some true ∨ other = id := by
  obtain ⟨shared, polled | polled⟩ := exists_attendance_pollParticipant backend t id waker state
  · rw [polled]
    exact ⟨rfl, fun _ => .inl⟩
  · rw [polled]
    refine ⟨rfl, ?_⟩
    intro other subscribed
    by_cases same : other = id
    · exact .inr same
    · rw [Attendance.subscribe, List.getElem?_modify] at subscribed
      exact .inl (by simpa [Ne.symm same] using subscribed)

/-- A shared execution which begins when all statements are there is not refused. -/
theorem unrefused_pollShared (started : t.attendance.Started expected)
    (counted : t.members.length = t.expected) (accepted : ¬ t.Refused) {shared : SharedExecution}
    (here : t.shared = some shared) (state : σ) :
    ¬ (t.pollShared backend shared state).2.1.Refused := by
  cases shared with
  | finished result => exact accepted
  | active execution =>
      rcases polled : t.execute backend execution state with ⟨progress, after, later⟩
      obtain ⟨result, shared, errors, finished, kept⟩ := t.pollShared_active backend polled
      rw [finished]
      rintro ⟨error, refused⟩
      cases refused
      cases kept with
      | refused =>
          have reason := refused_of_execute (congrArg Prod.fst polled)
          obtain ⟨rfl, ⟨missing, -⟩ | ⟨-, miscounted, -⟩⟩ := reason
          · rcases started.shared with shares | ⟨-, subscribed⟩
            · rw [show t.attendance.shared = _ from here] at shares
              cases shares
            · exact missing subscribed
          · exact miscounted counted

theorem unrefused_pollParticipant (sound : t.attendance.Sound expected)
    (counted : t.members.length = t.expected) (accepted : ¬ t.Refused) (id : Nat) (waker : Waker)
    (state : σ) : ¬ (t.pollParticipant backend id waker state).2.1.Refused := by
  have started := started_subscribeOnce sound id
  have subscribed : ¬ (t.subscribeOnce id).Refused := by
    rintro ⟨error, finished⟩
    apply accepted
    have shared : (t.subscribeOnce id).shared = t.shared ∨
        (t.subscribeOnce id).shared = some (t.shared.getD (.active .unstarted)) := by
      rcases t.attendance_subscribeOnce id with same | same | ⟨-, -, same⟩
      · exact .inl (congrArg Attendance.shared same)
      · exact .inl (congrArg Attendance.shared same)
      · exact .inr (congrArg Attendance.shared same)
    rw [finished] at shared
    rcases shared with same | same
    · exact ⟨error, same.symm⟩
    · cases before : t.shared with
      | none =>
          rw [before] at same
          cases same
      | some execution =>
          rw [before] at same
          exact ⟨error, before.trans same.symm⟩
  have members : (t.subscribeOnce id).members.length = (t.subscribeOnce id).expected := by
    have same := t.ledger_subscribeOnce id
    have created : (t.subscribeOnce id).expected = t.expected := congrArg Ledger.expected same
    have length := congrArg (fun ledger => ledger.lines.length) same
    simp only [ledger, List.length_map] at length
    rw [length, counted, created]
  have visited := t.visited backend id waker state
  generalize (t.pollParticipant backend id waker state).2 = result at visited ⊢
  cases visited with
  | early _ tends =>
      rw [tends.keeps.refused_iff]
      exact subscribed
  | shared here polled tends =>
      have unrefused := unrefused_pollShared backend started members subscribed here state
      rw [polled] at unrefused
      rw [tends.keeps.refused_iff]
      exact unrefused

/-- Whoever was handed an outcome resolves with it when polled, unless the shared execution
is refused or suspended. -/
theorem resolved_of_told {id : Nat} {outcome : Outcome} (told : t.wasTold id = true)
    (handed : t.delivered? id = some outcome) (waker : Waker) (state : σ)
    (accepted : ¬ (t.pollParticipant backend id waker state).2.1.Refused) :
    (t.pollParticipant backend id waker state).1 = some outcome ∨
      ∃ run, (t.pollParticipant backend id waker state).2.1.shared =
        some (.active (.running run)) := by
  have received {after : Transaction} (grows : Grows t after) :
      (after.receive id).1 = some outcome := by
    rw [receive, (grows.told id told).2, handed]
  have subscribed := t.grows_subscribeOnce id
  have visit := t.visit backend id waker state
  generalize t.pollParticipant backend id waker state = result at visit accepted ⊢
  cases visit with
  | early _ => exact .inl (received (subscribed.trans (keeps_awaitStart _ waker).grows))
  | @suspended shared after _ started polled =>
      right
      cases shared with
      | finished result => cases polled
      | active execution =>
          rcases executed : (t.subscribeOnce id).execute backend execution state with
            ⟨progress, other, later⟩
          obtain ⟨_, _, _, finished, kept⟩ := pollShared_active _ backend executed
          rw [polled] at finished
          obtain ⟨same, rfl, -⟩ := by simpa using finished
          subst same
          cases kept with
          | suspended run => exact ⟨run, rfl⟩
  | @refused _ error after _ started polled =>
      have finished := finished_of_pollShared backend started polled
      exact absurd ⟨error, finished⟩ ((after.keeps_depart id).refused_iff.not.mp accepted)
  | completed started polled =>
      have shared := grows_pollShared backend started state
      rw [polled] at shared
      exact .inl (received (subscribed.trans shared))

end Poll

end Transaction

namespace Scene

variable {σ : Type}

/-- A transaction with nobody but its participants to deal with it. -/
def sceneOf (t : Transaction) (state : σ) : Scene σ where
  transaction := t
  backend := (state, [])

/-- Calls can always be joined, which adds them one after another. -/
theorem joined_calls (backend : Backend σ) (threshold : Duration) (calls : List Call) (state : σ) :
    ∃ t, joinCalls threshold calls = .ok t ∧ t.Joining calls ∧
      (initial calls.length threshold state).run backend
        (calls.map fun call => .participate call.statement) = sceneOf t state := by
  rw [joinCalls]
  generalize calls.length = expected
  induction calls using List.reverseRecOn with
  | nil => exact ⟨_, rfl, ⟨rfl, rfl, rfl, fun _ none => nomatch none⟩, rfl⟩
  | append_singleton calls call inductionHypothesis =>
      obtain ⟨t, joined, joining, reached⟩ := inductionHypothesis
      obtain ⟨id, after, added, joining⟩ := joining.participate call
      refine ⟨after, ?_, joining, ?_⟩
      · rw [List.foldlM_append, joined]
        change (t.participate call.statement).map (·.2) >>= pure = _
        rw [added]
        rfl
      · rw [List.map_append, List.map_singleton, run_concat, reached]
        change (sceneOf t state).register (t.participate call.statement) = _
        rw [added]
        rfl

end Scene

end NamedSql
