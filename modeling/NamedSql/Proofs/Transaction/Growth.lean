import NamedSql.Proofs.Transaction.Attendance

/-!
# What is never taken back

Whatever happens to a transaction, its statements stay, what was told stays told, a
transaction which has begun is never pending again, and the shared execution is
finished with one result.
-/

namespace NamedSql.Transaction

/-- Nothing which a transaction has come to was taken back. -/
structure Grows (before after : Transaction) : Prop where
  created : after.expected = before.expected
  statements : before.attendance.statements <+: after.attendance.statements
  notices : before.notices ⊆ after.notices
  begun : before.state ≠ .pending → after.state ≠ .pending
  finished : ∀ result, before.shared = some (.finished result) →
    after.shared = some (.finished result)
  informed : before.Informed → after.Informed
  told : Told before after

namespace Grows

variable {before between after : Transaction}

theorem refl (t : Transaction) : Grows t t :=
  ⟨rfl, List.prefix_rfl, List.Subset.refl _, id, fun _ => id, id, .refl t⟩

theorem trans (first : Grows before between) (second : Grows between after) :
    Grows before after where
  created := second.created.trans first.created
  statements := first.statements.trans second.statements
  notices := List.Subset.trans first.notices second.notices
  begun := second.begun ∘ first.begun
  finished result := second.finished result ∘ first.finished result
  informed := second.informed ∘ first.informed
  told := first.told.trans second.told

end Grows

theorem Keeps.grows {before after : Transaction} (keeps : Keeps before after) :
    Grows before after where
  created := congrArg Attendance.expected keeps.attendance
  statements := keeps.attendance ▸ List.prefix_rfl
  notices := keeps.notices
  begun := keeps.begun
  finished _ finished := (congrArg Attendance.shared keeps.attendance).trans finished
  informed := keeps.informed
  told := keeps.told

/-! ## Adding and subscribing statements -/

variable (t : Transaction)

/-- A sink which was not handed anything is added. -/
theorem grows_enroll (statement : Except SharedError Statement) {sink : Sink}
    (fresh : sink.delivered? = none) : Grows t (t.enroll statement sink) where
  created := rfl
  statements := by
    rw [attendance_enroll]
    exact List.prefix_append _ _
  notices := List.Subset.refl _
  begun := id
  finished _ := id
  informed := by
    refine informed_of_delivered ?_ (List.Subset.refl _)
    intro id outcome received
    rw [delivered?_eq] at received ⊢
    by_cases earlier : id < t.members.length
    · rwa [enroll, List.getElem?_append_left earlier] at received
    · rw [enroll, List.getElem?_append_right (Nat.le_of_not_lt earlier)] at received
      cases here : id - t.members.length with
      | zero =>
          rw [here] at received
          cases fresh.symm.trans received
      | succ _ =>
          rw [here] at received
          cases received
  told := by
    intro id told
    have earlier : id < t.members.length := by
      by_contra outside
      rw [wasTold, List.getElem?_eq_none (Nat.le_of_not_lt outside)] at told
      cases told
    rw [delivered?_eq, delivered?_eq, enroll, wasTold, List.getElem?_append_left earlier]
    exact ⟨told, rfl⟩

theorem grows_add {statement : Except Error Statement} {sink : Sink}
    (fresh : sink.delivered? = none)
    {id : Nat} {after : Transaction} (added : t.add statement sink = .ok (id, after)) :
    Grows t after :=
  (t.grows_enroll _ fresh).trans (t.keeps_add added).grows

/-- Subscriptions may change, and nothing else. -/
theorem grows_of_subscribed {after : Transaction}
    (created : after.expected = t.expected)
    (statements : after.attendance.statements = t.attendance.statements)
    (finished : ∀ result, t.shared = some (.finished result) →
      after.shared = some (.finished result))
    (state : after.state = t.state) (delivered : ∀ id, after.delivered? id = t.delivered? id)
    (notices : after.notices = t.notices)
    (notified : after.members.map Member.notified = t.members.map Member.notified) :
    Grows t after where
  created := created
  statements := statements ▸ List.prefix_rfl
  notices := notices ▸ List.Subset.refl _
  begun begun := state ▸ begun
  finished := finished
  informed := by
    apply informed_of_delivered _ (notices ▸ List.Subset.refl _)
    intro id outcome received
    rwa [delivered] at received
  told := told_of_delivered delivered notified

theorem grows_markSubscribed (id : Nat) : Grows t (t.markSubscribed id).2 := by
  refine t.grows_of_subscribed rfl ?_ (fun _ finished => finished) rfl ?_ rfl
    (map_modify_of_same fun _ => rfl)
  · rw [attendance_markSubscribed]
    rfl
  · exact t.delivered?_modifyMember id fun _ => rfl

theorem grows_markAllSubscribed : Grows t t.markAllSubscribed := by
  refine t.grows_of_subscribed rfl ?_ (fun _ finished => finished) rfl ?_ rfl
    (by simp [markAllSubscribed, Function.comp_def, Member.subscribe])
  · rw [attendance_markAllSubscribed]
    rfl
  · intro id
    rw [delivered?_eq, delivered?_eq, markAllSubscribed, List.getElem?_map]
    cases t.members[id]? <;> rfl

theorem grows_startShared : Grows t t.startShared := by
  unfold startShared
  cases shared : t.shared with
  | some _ => exact .refl t
  | none =>
      refine t.grows_of_subscribed rfl rfl ?_ rfl (fun _ => rfl) ?_ rfl
      · intro result finished
        exact nomatch shared.symm.trans finished
      · have woken : ((t.waiters.map Event.woken).filter Event.isNotice) = [] := by
          simp [Event.isNotice]
        simp only [notices, note, List.filter_append, woken, List.append_nil]

theorem grows_subscribeOnce (id : Nat) : Grows t (t.subscribeOnce id) := by
  have polled := (t.keeps_polled id).grows
  unfold subscribeOnce
  split
  · exact .refl t
  · simp only
    split
    · exact (polled.trans (grows_markSubscribed _ id)).trans (grows_startShared _)
    · exact polled.trans (grows_markSubscribed _ id)

/-! ## Polling participants -/

variable {t} {σ : Type} (backend : Backend σ) {shared : SharedExecution} {after : Transaction}
  {state later : σ}

theorem grows_pollShared (started : t.shared = some shared) (state : σ) :
    Grows t (t.pollShared backend shared state).2.1 := by
  cases shared with
  | finished result => exact .refl t
  | active execution =>
      have kept := t.keeps_execute backend execution state
      rcases polled : t.execute backend execution state with ⟨progress, after, later⟩
      obtain ⟨result, shared, errors, finished, -⟩ := t.pollShared_active backend polled
      rw [polled] at kept
      rw [finished]
      have active : after.shared = some (.active execution) :=
        (congrArg Attendance.shared kept.attendance).trans started
      refine kept.grows.trans (grows_of_subscribed _ rfl rfl ?_ rfl (fun _ => rfl) rfl rfl)
      intro result finished
      exact nomatch active.symm.trans finished

theorem grows_pollParticipant (t : Transaction) (id : Nat) (waker : Waker) (state : σ) :
    Grows t (t.pollParticipant backend id waker state).2.1 := by
  have subscribed := t.grows_subscribeOnce id
  have visited := t.visited backend id waker state
  generalize (t.pollParticipant backend id waker state).2 = result at visited ⊢
  cases visited with
  | early _ tends => exact subscribed.trans tends.keeps.grows
  | shared started polled tends =>
      have shared := grows_pollShared backend started state
      rw [polled] at shared
      exact (subscribed.trans shared).trans tends.keeps.grows

/-- A result of the shared execution is its only one. -/
theorem finished_of_pollShared (started : t.shared = some shared)
    {result : Except SharedError Unit}
    (polled : t.pollShared backend shared state = (some result, after, later)) :
    after.shared = some (.finished result) := by
  cases shared with
  | finished other =>
      obtain ⟨rfl, rfl, -⟩ := by simpa [pollShared] using polled
      exact started
  | active execution =>
      rcases executed : t.execute backend execution state with ⟨progress, after, later⟩
      obtain ⟨_, _, _, finished, shared⟩ := t.pollShared_active backend executed
      rw [polled] at finished
      obtain ⟨same, rfl, -⟩ := by simpa using finished
      subst same
      cases shared <;> rfl

end NamedSql.Transaction
