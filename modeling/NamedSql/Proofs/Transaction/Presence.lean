import NamedSql.Proofs.Transaction.Attendance

/-!
# Participants which are still there

An execution makes no participant leave.  Whoever is still there when the sinks are told was
handed its outcome, and whoever was polled is subscribed.
-/

namespace NamedSql

namespace Member

/-- A participant which is still there was handed the outcome if its sink was told, and one which
was polled is subscribed. -/
structure Orderly (member : Member) : Prop where
  served : member.notified = true → ∀ participant, member.participant? = some participant →
    participant.gone = false → participant.delivered ≠ none
  subscribed : ∀ participant, member.participant? = some participant →
    participant.polled = true → member.subscribed = true

/-- Whether the participant of a member is still there. -/
def isPresent (member : Member) : Bool :=
  member.participant?.any (!·.gone)

variable {member : Member}

theorem isPresent_told (outcome : Outcome) (member : Member) :
    (member.told outcome).isPresent = member.isPresent := by
  rcases member with ⟨statement, name | ⟨polled, _ | _, delivered⟩, notified, output⟩ <;> rfl

theorem Orderly.told (orderly : member.Orderly) (outcome : Outcome) :
    (member.told outcome).Orderly := by
  rcases member with ⟨statement, name | ⟨polled, _ | _, delivered⟩, notified, output⟩
  · exact ⟨nofun, nofun⟩
  · refine ⟨?_, ?_⟩
    · rintro - _ ⟨⟩ -
      exact nofun
    · rintro _ ⟨⟩ polled
      exact orderly.subscribed _ rfl polled
  · refine ⟨?_, ?_⟩
    · rintro - _ ⟨⟩ present
      cases present
    · rintro _ ⟨⟩ polled
      exact orderly.subscribed _ rfl polled

theorem Orderly.record (orderly : member.Orderly) (output : Output) :
    (member.record output).Orderly :=
  ⟨orderly.served, orderly.subscribed⟩

/-- A member after the first poll of its participant. -/
def attend (member : Member) : Member :=
  (member.modifyParticipant fun p => { p with polled := true }).subscribe

theorem isPresent_attend (member : Member) : member.attend.isPresent = member.isPresent := by
  rcases member with ⟨statement, name | participant⟩ <;> rfl

theorem Orderly.attend (orderly : member.Orderly) : member.attend.Orderly := by
  refine ⟨?_, fun _ _ _ => rfl⟩
  rcases member with ⟨statement, name | participant⟩
  · nofun
  · rintro told _ ⟨⟩ present
    exact orderly.served told participant rfl present

/-- A member after its participant was dropped. -/
def depart (member : Member) : Member :=
  member.modifyParticipant fun p => { p with gone := true }

theorem isPresent_depart (member : Member) : member.depart.isPresent = false := by
  rcases member with ⟨statement, name | participant⟩ <;> rfl

theorem Orderly.depart (orderly : member.Orderly) : member.depart.Orderly := by
  rcases member with ⟨statement, name | participant⟩
  · exact orderly
  · refine ⟨?_, ?_⟩
    · rintro - _ ⟨⟩ present
      cases present
    · rintro _ ⟨⟩ polled
      exact orderly.subscribed _ rfl polled

end Member

namespace Transaction

variable {t before after : Transaction}

/-- All members are orderly. -/
def Orderly (t : Transaction) : Prop :=
  ∀ member ∈ t.members, member.Orderly

theorem isPresent_eq (t : Transaction) (id : Nat) :
    t.isPresent id = (t.members[id]?).any Member.isPresent := by
  rw [isPresent]
  cases t.members[id]? <;> rfl

theorem isPresent_modifyMember (id : Nat) {change : Member → Member}
    (same : ∀ member, (change member).isPresent = member.isPresent) (other : Nat) :
    (t.modifyMember id change).isPresent other = t.isPresent other := by
  rw [isPresent_eq, isPresent_eq, modifyMember, List.getElem?_modify]
  split <;> cases t.members[other]? <;> simp [same]

theorem Orderly.modifyMember (orderly : t.Orderly) (id : Nat) {change : Member → Member}
    (kept : ∀ member, member.Orderly → (change member).Orderly) :
    (t.modifyMember id change).Orderly := by
  intro member among
  obtain ⟨other, inside, rfl⟩ := List.mem_iff_getElem.mp among
  have found := orderly _ (List.getElem_mem (List.length_modify .. ▸ inside))
  simp only [Transaction.modifyMember, List.getElem_modify]
  split
  · exact kept _ found
  · exact found

/-- Nobody leaves, and orderly members stay so. -/
structure Composed (before after : Transaction) : Prop where
  present : ∀ id, after.isPresent id = before.isPresent id
  orderly : before.Orderly → after.Orderly

theorem composed_notify (id : Nat) (outcome : Member → Outcome) (t : Transaction) :
    Composed t (t.notify id outcome) := by
  cases found : t.members[id]? with
  | none =>
      have unchanged : t.notify id outcome = t := by simp only [notify, found]
      rw [unchanged]
      exact ⟨fun _ => rfl, fun orderly => orderly⟩
  | some member =>
      by_cases untold : member.notified = false
      · obtain ⟨members, -, -⟩ := notify_of_untold found untold outcome
        have same : (t.notify id outcome).members =
          (t.modifyMember id (Member.told (outcome member))).members := members
        constructor
        · intro other
          rw [isPresent_eq, same, ← isPresent_eq]
          exact isPresent_modifyMember id (Member.isPresent_told _) other
        · intro orderly
          rw [Orderly, same]
          exact orderly.modifyMember id fun _ kept => kept.told _
      · have told : member.notified = true := by simpa using untold
        have unchanged : t.notify id outcome = t := by simp only [notify, found, told, if_true]
        rw [unchanged]
        exact ⟨fun _ => rfl, fun orderly => orderly⟩

/-- Everything which an execution does leaves the participants where they are. -/
theorem framing_composed : Framing Composed where
  refl _ := ⟨fun _ => rfl, fun orderly => orderly⟩
  trans first second :=
    ⟨fun id => (second.present id).trans (first.present id), second.orderly ∘ first.orderly⟩
  note _ _ _ := ⟨fun _ => rfl, fun orderly => orderly⟩
  share _ _ := ⟨fun _ => rfl, fun orderly => orderly⟩
  move _ _ _ _ := ⟨fun _ => rfl, fun orderly => orderly⟩
  hush _ := ⟨fun _ => rfl, fun orderly => orderly⟩
  notify id outcome t := composed_notify id outcome t
  record id _ _ :=
    ⟨isPresent_modifyMember id fun _ => rfl,
      fun orderly => orderly.modifyMember id fun _ kept => kept.record _⟩

/-! ## Polling and dropping participants -/

theorem members_startShared (t : Transaction) : t.startShared.members = t.members := by
  unfold startShared
  split <;> rfl

/-- The first poll of a participant attends to its member. -/
theorem members_subscribeOnce (t : Transaction) (id : Nat) :
    (t.subscribeOnce id).members =
      if t.wasPolled id then t.members else t.members.modify id Member.attend := by
  have attended : (t.members.modify id (Member.modifyParticipant fun p =>
      { p with polled := true })).modify id Member.subscribe =
        t.members.modify id Member.attend := List.modify_modify_eq _ _ _ _
  unfold subscribeOnce
  split
  · rfl
  · rw [← attended]
    simp only
    split
    · exact members_startShared _
    · rfl

theorem composed_subscribeOnce (t : Transaction) (id : Nat) : Composed t (t.subscribeOnce id) := by
  have members := t.members_subscribeOnce id
  split at members
  · exact ⟨fun other => by rw [isPresent_eq, isPresent_eq, members],
      fun orderly => by rwa [Orderly, members]⟩
  · have same : (t.subscribeOnce id).members = (t.modifyMember id Member.attend).members := members
    constructor
    · intro other
      rw [isPresent_eq, same, ← isPresent_eq]
      exact isPresent_modifyMember id Member.isPresent_attend other
    · intro orderly
      rw [Orderly, same]
      exact orderly.modifyMember id fun _ kept => kept.attend

/-- Whoever was polled while it was there is subscribed. -/
theorem subscribed_subscribeOnce (orderly : t.Orderly) {id : Nat}
    (present : t.isPresent id = true) :
    (t.subscribeOnce id).attendance.subscribed[id]? = some true := by
  rw [isPresent_eq] at present
  cases found : t.members[id]? with
  | none =>
      rw [found] at present
      cases present
  | some member =>
      have members := t.members_subscribeOnce id
      simp only [attendance, List.getElem?_map, members]
      split
      next polled =>
        rw [wasPolled, found] at polled
        have known := orderly member (List.mem_of_getElem? found)
        cases consumer : member.participant? with
        | none => simp [consumer] at polled
        | some participant =>
            simp only [consumer, Option.bind_some, Option.any_some] at polled
            rw [found, Option.map_some, known.subscribed participant consumer polled]
      next =>
        rw [List.getElem?_modify_eq, found]
        rfl

theorem orderly_depart (orderly : t.Orderly) (id : Nat) : (t.depart id).Orderly :=
  orderly.modifyMember id fun _ kept => kept.depart

theorem isPresent_depart_self (t : Transaction) (id : Nat) :
    (t.depart id).isPresent id = false := by
  rw [isPresent_eq]
  change (t.members.modify id Member.depart)[id]?.any Member.isPresent = false
  rw [List.getElem?_modify_eq]
  cases t.members[id]? with
  | none => rfl
  | some member => exact member.isPresent_depart

theorem isPresent_depart_of_ne {id other : Nat} (different : other ≠ id) (t : Transaction) :
    (t.depart id).isPresent other = t.isPresent other := by
  rw [isPresent_eq, isPresent_eq]
  change (t.members.modify id Member.depart)[other]?.any Member.isPresent = _
  rw [List.getElem?_modify_ne _ _ (Ne.symm different)]

/-- A participant leaves exactly when it resolves, and no other one leaves. -/
structure Left (id : Nat) (before : Transaction) (outcome : Option Outcome) (after : Transaction) :
    Prop where
  orderly : before.Orderly → after.Orderly
  others : ∀ other, other ≠ id → after.isPresent other = before.isPresent other
  resolved : outcome ≠ none → after.isPresent id = false
  unresolved : outcome = none → after.isPresent id = before.isPresent id

theorem Composed.left (composed : Composed before after) {id : Nat} {outcome : Option Outcome}
    {final : Transaction} (left : Left id after outcome final) : Left id before outcome final where
  orderly := left.orderly ∘ composed.orderly
  others other different := (left.others other different).trans (composed.present other)
  resolved := left.resolved
  unresolved none := (left.unresolved none).trans (composed.present id)

theorem left_depart (t : Transaction) (id : Nat) (outcome : Outcome) :
    Left id t (some outcome) (t.depart id) where
  orderly orderly := orderly_depart orderly id
  others _ different := isPresent_depart_of_ne different t
  resolved _ := t.isPresent_depart_self id
  unresolved := nofun

theorem left_receive (t : Transaction) (id : Nat) :
    Left id t (t.receive id).1 (t.receive id).2 := by
  unfold receive
  split
  next outcome _ => exact t.left_depart id outcome
  next => exact ⟨fun orderly => orderly, fun _ _ => rfl, (absurd rfl ·), fun _ => rfl⟩

variable {σ : Type} (backend : Backend σ)

theorem composed_pollShared (t : Transaction) (shared : SharedExecution) (state : σ) :
    Composed t (t.pollShared backend shared state).2.1 := by
  cases shared with
  | finished result => exact framing_composed.refl t
  | active execution =>
      have composed := framing_composed.execute t backend execution state
      rcases polled : t.execute backend execution state with ⟨progress, after, later⟩
      obtain ⟨result, shared, errors, finished, -⟩ := t.pollShared_active backend polled
      rw [polled] at composed
      rw [finished]
      exact ⟨composed.present, composed.orderly⟩

theorem left_pollParticipant (t : Transaction) (id : Nat) (waker : Waker) (state : σ) :
    Left id t (t.pollParticipant backend id waker state).1
      (t.pollParticipant backend id waker state).2.1 := by
  have subscribed := t.composed_subscribeOnce id
  have visit := t.visit backend id waker state
  apply subscribed.left
  generalize t.pollParticipant backend id waker state = result at visit ⊢
  cases visit with
  | early idle =>
      have waits : Composed (t.subscribeOnce id) ((t.subscribeOnce id).awaitStart waker) := by
        unfold awaitStart
        split <;> exact ⟨fun _ => rfl, fun orderly => orderly⟩
      exact waits.left (left_receive _ id)
  | @suspended shared _ _ started polled =>
      have composed := composed_pollShared backend (t.subscribeOnce id) shared state
      rw [polled] at composed
      exact ⟨composed.orderly, fun other _ => composed.present other, (absurd rfl ·),
        fun _ => composed.present id⟩
  | @refused shared error after _ started polled =>
      have composed := composed_pollShared backend (t.subscribeOnce id) shared state
      rw [polled] at composed
      exact composed.left (after.left_depart id (.error error))
  | @completed shared after _ started polled =>
      have composed := composed_pollShared backend (t.subscribeOnce id) shared state
      rw [polled] at composed
      exact composed.left (after.left_receive id)

/-! ## Resolving in the end -/

variable {id : Nat}

/-- Whoever is still there when all sinks have been told takes its outcome. -/
theorem receive_of_told (orderly : t.Orderly) (told : ∀ line ∈ t.ledger.lines, line.notified = true)
    (present : t.isPresent id = true) : (t.receive id).1 ≠ none := by
  rw [isPresent_eq] at present
  cases found : t.members[id]? with
  | none =>
      rw [found] at present
      cases present
  | some member =>
      rw [found, Option.any_some, Member.isPresent] at present
      cases consumer : member.participant? with
      | none =>
          rw [consumer] at present
          cases present
      | some participant =>
          have among := List.mem_of_getElem? found
          have notified := told member.line (List.mem_map_of_mem among)
          rw [consumer, Option.any_some, Bool.not_eq_eq_eq_not] at present
          obtain ⟨outcome, delivered⟩ := Option.ne_none_iff_exists'.mp
            ((orderly member among).served notified participant consumer present)
          have handed : t.delivered? id = some outcome := by
            rw [delivered?, found]
            change member.participant? >>= Participant.delivered = _
            rw [consumer]
            exact delivered
          rw [receive, handed]
          exact nofun

/-- Who took no outcome would take none again. -/
theorem receive_receive (nothing : (t.receive id).1 = none) :
    ((t.receive id).2.receive id).1 = none := by
  cases handed : t.delivered? id with
  | none => simp only [receive, handed]
  | some outcome =>
      rw [receive, handed] at nothing
      cases nothing

/-- A participant resolves with the poll which finds the shared execution finished and all sinks
told. -/
theorem resolves_of_finished (orderly : t.Orderly) (present : t.isPresent id = true)
    {waker : Waker} {state : σ}
    (finished : (t.pollParticipant backend id waker state).2.1.shared = some (.finished (.ok ())))
    (told : ∀ line ∈ (t.pollParticipant backend id waker state).2.1.ledger.lines,
      line.notified = true) : (t.pollParticipant backend id waker state).1 ≠ none := by
  intro unresolved
  have left := left_pollParticipant backend t id waker state
  have takes := receive_of_told (left.orderly orderly) told
    ((left.unresolved unresolved).trans present)
  have visit := t.visit backend id waker state
  generalize t.pollParticipant backend id waker state = result at *
  cases visit with
  | early idle => exact takes (receive_receive unresolved)
  | refused started polled => cases unresolved
  | completed started polled => exact takes (receive_receive unresolved)
  | @suspended shared after _ started polled =>
      cases shared with
      | finished result => cases polled
      | active execution =>
          rcases executed : (t.subscribeOnce id).execute backend execution state with
            ⟨progress, other, later⟩
          obtain ⟨_, _, _, ends, kept⟩ := pollShared_active _ backend executed
          rw [polled] at ends
          obtain ⟨same, rfl, -⟩ := by simpa using ends
          subst same
          cases kept with
          | suspended run => cases finished

end Transaction

end NamedSql
