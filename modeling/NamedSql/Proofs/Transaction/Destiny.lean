import NamedSql.Proofs.Transaction.Attendance
import NamedSql.Proofs.Transaction.Completion

/-!
# Where a shared execution is bound to end

As soon as all statements are subscribed, it is certain what the shared execution will come to:
whoever polls it, and however the participants change between two polls, it ends with the same
books and with the same state of the backend.
-/

namespace NamedSql.Transaction

open Ledger (Standing)

section Outcome

variable {σ : Type} {backend : Backend σ} {t u : Transaction} {execution : Execution}
  {result : Except Error Unit} {callback : Option String} {start last : σ × List Exchange}

/-! ## What an execution comes to -/

theorem Completes.keeps {state after : σ}
    (completes : Completes backend execution t state result u after) : Keeps t u := by
  induction completes with
  | @finished execution t _ state _ _ executed =>
      have kept := t.keeps_execute backend execution state
      rwa [executed] at kept
  | @suspended execution _ t _ _ state _ _ _ executed _ inductionHypothesis =>
      have kept := t.keeps_execute backend execution state
      rw [executed] at kept
      exact kept.trans inductionHypothesis

/-- No run is underway after a run has ended. -/
theorem Ends.standing {run : Run} (ends : Ends backend.recording run t start u last)
    (standing : Standing t.ledger start.2 callback (some run)) :
    Standing u.ledger last.2 callback none := by
  induction ends with
  | ended driven =>
      have stands := standing_drive backend standing
      rwa [driven] at stands
  | suspended driven _ inductionHypothesis =>
      have stands := standing_drive backend standing
      rw [driven] at stands
      exact inductionHypothesis stands

/-- The execution of a complete transaction is not refused, and settles it. -/
theorem settled_of_completes (ready : t.Ready)
    (standing : Standing t.ledger start.2 callback none)
    (completes : Completes backend.recording .unstarted t start result u last) :
    result = .ok () ∧
      ∃ outcome outputs, u.ledger.Settled last.2 callback outcome outputs := by
  have settled (standing : Standing u.ledger last.2 callback none)
      (begun : u.ledger.state ≠ .pending) :
      ∃ outcome outputs, u.ledger.Settled last.2 callback outcome outputs := by
    cases standing with
    | gathering gathering _ _ => exact absurd gathering.state begun
    | settled settled => exact ⟨_, _, settled⟩
  have admission := t.admission
  rcases begun : t.begin with ⟨run | other, after⟩
  · rw [begun] at admission
    obtain ⟨succeeded, ends⟩ := (completes_iff_of_begun begun).mp completes
    obtain ⟨-, underway⟩ := standing_suspended standing admission
    have kept := (completes_running_iff.mpr ⟨rfl, ends⟩).keeps
    refine ⟨succeeded, settled (ends.standing underway) (kept.begun ?_)⟩
    cases admission with
    | admitted _ _ => exact nofun
  · rw [begun] at admission
    obtain ⟨rfl, rfl, rfl⟩ := (completes_iff_of_finished begun).mp completes
    have stands := standing_finished standing admission
    cases admission with
    | unsubscribed missing => exact absurd ready.subscribed missing
    | miscounted _ miscounted => exact absurd ready.counted miscounted
    | closed gate => exact nomatch ready.gate.symm.trans gate
    | late _ other => exact absurd ready.state other
    | unbound _ _ =>
        refine ⟨rfl, settled stands ?_⟩
        rw [ledger_settle]
        exact nofun

end Outcome

/-- How an execution of which nothing is awaited any more begins and ends. -/
structure Fate {σ : Type} (backend : Backend σ) where
  origin : Transaction
  start : σ
  goal : Transaction
  last : σ
  attended : origin.awaiting = []
  completes : Completes backend .unstarted origin start (.ok ()) goal last

variable {σ : Type} {backend : Backend σ} {fate : Fate backend} {t u after : Transaction}
  {state later : σ} {execution : Execution}

/-! ## Participants leave the books alone -/

theorem books_depart (t : Transaction) (id : Nat) : (t.depart id).books = t.books :=
  Prod.ext (t.ledger_depart id) rfl

theorem books_awaitStart (t : Transaction) (waker : Waker) :
    (t.awaitStart waker).books = t.books := by
  refine Prod.ext (t.ledger_awaitStart waker) ?_
  unfold awaitStart
  split <;> rfl

theorem books_receive (t : Transaction) (id : Nat) : (t.receive id).2.books = t.books := by
  unfold receive
  split
  · exact t.books_depart id
  · rfl

theorem errors_startShared (t : Transaction) : t.startShared.errors = t.errors := by
  unfold startShared
  split <;> rfl

theorem books_subscribeOnce (t : Transaction) (id : Nat) :
    (t.subscribeOnce id).books = t.books := by
  refine Prod.ext (t.ledger_subscribeOnce id) ?_
  unfold subscribeOnce
  split
  · rfl
  · simp only
    split
    · exact errors_startShared _
    · rfl

/-! ## Destiny -/

/-- A shared execution has not started yet, is underway, or has finished, and it is bound to meet
its fate. -/
inductive Destined (fate : Fate backend) (t : Transaction) : σ → Prop where
  | idle (idle : t.shared = none) (same : t.books = fate.origin.books) :
      Destined fate t fate.start
  | active {execution : Execution} {state : σ} {u : Transaction}
      (active : t.shared = some (.active execution))
      (ready : execution = .unstarted → t.awaiting = [])
      (completes : Completes backend execution t state (.ok ()) u fate.last)
      (same : u.books = fate.goal.books) : Destined fate t state
  | finished (finished : t.shared = some (.finished (.ok ()))) (same : t.books = fate.goal.books) :
      Destined fate t fate.last

/-- Nothing of what decides about the end was changed. -/
theorem Destined.changed (destined : Destined fate t state)
    (same : u.books = t.books) (shared : u.shared = t.shared)
    (awaiting : t.awaiting = [] → u.awaiting = []) :
    Destined fate u state := by
  cases destined with
  | idle idle books => exact .idle (shared.trans idle) (same.trans books)
  | @active execution _ _ active ready completes books =>
      obtain ⟨w, completes, alike⟩ := completes.congr same.symm fun unstarted =>
        (ready unstarted).trans (awaiting (ready unstarted)).symm
      exact .active (shared.trans active) (fun unstarted => awaiting (ready unstarted)) completes
        (alike.trans books)
  | finished finished books => exact .finished (shared.trans finished) (same.trans books)

/-- A subscription leaves nobody awaited if nobody was. -/
theorem awaiting_subscribeOnce (none : t.awaiting = []) (id : Nat) :
    (t.subscribeOnce id).awaiting = [] := by
  have erased : t.awaiting.erase id = [] := by rw [none, List.erase_nil]
  rcases t.attendance_subscribeOnce id with same | same | ⟨awaited, -, -⟩
  · exact (congrArg Attendance.awaiting same).trans none
  · exact (congrArg Attendance.awaiting same).trans erased
  · exact absurd none awaited

/-- A subscription makes no difference to an execution of which nothing is awaited any more. -/
theorem execute_subscribeOnce (backend : Backend σ) (same : t.books = u.books)
    (ready : execution = .unstarted → t.awaiting = [] ∧ u.awaiting = []) (id : Nat) (state : σ) :
    SameBooks (t.execute backend execution state)
      ((u.subscribeOnce id).execute backend execution state) := by
  apply execute_congr backend (same.trans (u.books_subscribeOnce id).symm)
  intro unstarted
  obtain ⟨none, others⟩ := ready unstarted
  rw [none, awaiting_subscribeOnce others id]

theorem Destined.subscribeOnce (destined : Destined fate t state) (id : Nat) :
    Destined fate (t.subscribeOnce id) state := by
  have books := t.books_subscribeOnce id
  rcases t.attendance_subscribeOnce id with same | same | ⟨-, awaited, same⟩
  · exact destined.changed books (congrArg Attendance.shared same)
      fun none => awaiting_subscribeOnce none id
  · exact destined.changed books (congrArg Attendance.shared same)
      fun none => awaiting_subscribeOnce none id
  · have awaiting : (t.subscribeOnce id).awaiting = [] :=
      (congrArg Attendance.awaiting same).trans awaited
    have shared : (t.subscribeOnce id).shared = some (t.shared.getD (.active .unstarted)) :=
      congrArg Attendance.shared same
    cases before : t.shared with
    | some execution =>
        rw [before] at shared
        exact destined.changed books (shared.trans before.symm) fun _ => awaiting
    | none =>
        rw [before] at shared
        cases destined with
        | idle _ origins =>
            obtain ⟨w, completes, alike⟩ := fate.completes.congr
              (books.trans origins).symm fun _ => fate.attended.trans awaiting.symm
            exact .active shared (fun _ => awaiting) completes alike
        | active active _ _ _ => cases before.symm.trans active
        | finished finished _ => cases before.symm.trans finished

/-- Nothing is told which will not have been told in the end. -/
theorem Destined.notices (destined : Destined fate t state) : t.notices ⊆ fate.goal.notices := by
  have same {first second : Transaction} (books : first.books = second.books) :
      first.notices = second.notices := congrArg (fun books => books.1.notices) books
  cases destined with
  | idle _ books => exact same books ▸ fate.completes.keeps.notices
  | active _ _ completes books => exact same books ▸ completes.keeps.notices
  | finished _ books => exact same books ▸ List.Subset.refl _

/-! ## Polling participants -/

/-- A poll carries the shared execution on until it is suspended. -/
theorem pollParticipant_of_suspended {id : Nat} {run : Run}
    (active : (t.subscribeOnce id).shared = some (.active execution))
    (executed : (t.subscribeOnce id).execute backend execution state =
      (.suspended run, after, later)) (waker : Waker) :
    t.pollParticipant backend id waker state =
      (none, { after with shared := some (.active (.running run)) }, later) := by
  simp only [pollParticipant, active, pollShared, executed]

/-- A poll finishes the shared execution, and the participant takes its outcome. -/
theorem pollParticipant_of_completed {id : Nat}
    (active : (t.subscribeOnce id).shared = some (.active execution))
    (executed : (t.subscribeOnce id).execute backend execution state =
      (.finished (.ok ()), after, later)) (waker : Waker) :
    let completed := { after with shared := some (.finished (.ok ())) }
    t.pollParticipant backend id waker state =
      ((completed.receive id).1, (completed.receive id).2, later) := by
  simp only [pollParticipant, active, pollShared, executed]

/-- After the shared execution, a participant takes its outcome. -/
theorem pollParticipant_of_finished {id : Nat}
    (finished : (t.subscribeOnce id).shared = some (.finished (.ok ()))) (waker : Waker)
    (state : σ) :
    t.pollParticipant backend id waker state =
      (((t.subscribeOnce id).receive id).1, ((t.subscribeOnce id).receive id).2, state) := by
  simp only [pollParticipant, finished, pollShared]

/-- Before the shared execution, a participant waits, unless it has its outcome already. -/
theorem pollParticipant_of_idle {id : Nat} (idle : (t.subscribeOnce id).shared = none)
    (waker : Waker) (state : σ) :
    let waiting := (t.subscribeOnce id).awaitStart waker
    t.pollParticipant backend id waker state =
      ((waiting.receive id).1, (waiting.receive id).2, state) := by
  simp only [pollParticipant, idle]

theorem Destined.receive (destined : Destined fate t state) (id : Nat) :
    Destined fate (t.receive id).2 state := by
  have kept := (t.keeps_receive id).attendance
  exact destined.changed (t.books_receive id) (congrArg Attendance.shared kept)
    (congrArg Attendance.awaiting kept).trans

theorem Destined.depart (destined : Destined fate t state) (id : Nat) :
    Destined fate (t.depart id) state := by
  have kept := (t.keeps_depart id).attendance
  exact destined.changed (t.books_depart id) (congrArg Attendance.shared kept)
    (congrArg Attendance.awaiting kept).trans

/-- Whoever is polled, the shared execution is still bound to end in the same way. -/
theorem Destined.pollParticipant (destined : Destined fate t state) (id : Nat)
    (waker : Waker) :
    Destined fate (t.pollParticipant backend id waker state).2.1
      (t.pollParticipant backend id waker state).2.2 := by
  cases destined.subscribeOnce id with
  | idle idle same =>
      rw [pollParticipant_of_idle idle]
      have kept := ((t.subscribeOnce id).keeps_awaitStart waker).attendance
      have books := (t.subscribeOnce id).books_awaitStart waker
      exact (Destined.idle ((congrArg Attendance.shared kept).trans idle)
        (books.trans same)).receive id
  | active active ready completes same =>
      cases completes with
      | finished executed =>
          rw [pollParticipant_of_completed active executed]
          refine Destined.receive ?_ id
          exact .finished rfl same
      | @suspended _ run _ between _ _ middle _ _ executed later =>
          rw [pollParticipant_of_suspended active executed]
          have kept : between.books =
              ({ between with shared := some (.active (.running run)) } : Transaction).books := rfl
          obtain ⟨w, completes, alike⟩ := later.congr kept nofun
          exact .active rfl nofun completes (alike.trans same)
  | finished finished same =>
      rw [pollParticipant_of_finished finished]
      exact (Destined.finished finished same).receive id

end NamedSql.Transaction
