import NamedSql.Proofs.Transaction.Completion
import NamedSql.Proofs.Transaction.Past

/-!
# Runs which end alike

A run is a way to its commit or to its rollback, and it ends from there without its entries.  Two
runs whose entries lead to the same phase therefore end alike: in the same state, with the same
notices, and with the same members if they are committed.
-/

namespace NamedSql

variable {σ : Type} {backend : Backend σ}

/-- A connection is released after a failure, whatever it answers. -/
def Backend.Releases (backend : Backend σ) (state after : σ) : Prop :=
  ∃ (rollback restore close : Except Error Unit) (first second : σ),
    backend.Performs .rollback 0 state rollback first ∧
    backend.Performs (.autoCommit true) 0 first restore second ∧
    backend.Performs .close 0 second close after

/-- Sinks are told the same error whatever was recorded for their statements. -/
theorem lateNotices_congr (state : TransactionState) (outcome : Outcome) {lines others : List Line}
    (same : lines.map Line.notified = others.map Line.notified) :
    lateNotices state (fun _ => outcome) lines = lateNotices state (fun _ => outcome) others := by
  refine congrArg List.flatten (List.ext_getElem? fun id => ?_)
  have notified := congrArg (·[id]?) same
  simp only [List.getElem?_map] at notified
  rw [List.getElem?_mapIdx, List.getElem?_mapIdx]
  cases here : lines[id]? <;> cases there : others[id]? <;> simp_all

namespace Transaction

variable {t u v : Transaction} {state after : σ} {entries others : List BoundEntry}
  {phase : Phase} {cause : SharedError}

/-! ## What entries leave alone -/

theorem notified_recordedLines (executed : List ((Nat × Statement) × Output))
    (lines : List Line) :
    (recordedLines executed lines).map Line.notified = lines.map Line.notified := by
  induction executed generalizing lines with
  | nil => rfl
  | cons first executed inductionHypothesis =>
      exact (inductionHypothesis _).trans (map_modify_of_same fun _ => rfl)

theorem ledger_afterEntry (elapsed : Duration) {entry : BoundEntry}
    (answer : Except Error (entryOperation entry).Answer) (t : Transaction) :
    (t.afterEntry elapsed entry answer).ledger = { t.ledger with
      lines := recordedLines (entry.statements.zip (⟨entry, answer⟩ : Attempt).outputs)
        t.ledger.lines } := by
  have books := books_record
    ((t.note [.performed (entryOperation entry) (failure? answer)]).logIfSlow elapsed entry) entry
    (⟨entry, answer⟩ : Attempt).outputs
  rw [books_logIfSlow, books_performed] at books
  exact congrArg Prod.fst books

/-- Executing entries tells nobody anything, and leaves the ledger alone but for what is
recorded. -/
theorem Executes.ledger (executes : Executes backend entries t state phase u after) :
    ∃ lines, u.ledger = { t.ledger with lines := lines } ∧
      lines.map Line.notified = t.ledger.lines.map Line.notified := by
  induction entries generalizing t state with
  | nil =>
      cases executes
      exact ⟨_, rfl, rfl⟩
  | cons entry rest inductionHypothesis =>
      obtain ⟨answer, between, -, ⟨_, -, -, ledger, -⟩ | ⟨-, others⟩⟩ := executes.of_cons
      · exact ⟨_, ledger, rfl⟩
      · obtain ⟨lines, ledger, notified⟩ := inductionHypothesis others
        rw [ledger_afterEntry] at ledger notified
        exact ⟨lines, ledger, notified.trans (notified_recordedLines _ _)⟩

theorem record_eq (entry : BoundEntry) (outputs : List Output) (t : Transaction) :
    t.record entry outputs = { t with members := (t.record entry outputs).members } := by
  unfold record
  induction entry.statements.zip outputs generalizing t with
  | nil => rfl
  | cons executed _ inductionHypothesis => exact inductionHypothesis _

theorem afterEntry_eq (elapsed : Duration) {entry : BoundEntry}
    (answer : Except Error (entryOperation entry).Answer) (t : Transaction) :
    ∃ members history, t.afterEntry elapsed entry answer =
      { t with members := members, history := history } := by
  rw [afterEntry, record_eq, logIfSlow]
  split <;> exact ⟨_, _, rfl⟩

/-- Up to the commit, executing entries changes the members and the history only. -/
theorem Executes.eq_of_commit (executes : Executes backend entries t state .commit u after) :
    u = { t with members := u.members, history := u.history } := by
  induction entries generalizing t state with
  | nil =>
      cases executes
      rfl
  | cons entry rest inductionHypothesis =>
      obtain ⟨answer, between, -, ⟨_, -, rolledBack, -, -⟩ | ⟨-, others⟩⟩ := executes.of_cons
      · cases rolledBack
      · obtain ⟨_, _, same⟩ :=
          t.afterEntry_eq (backend.elapsed (entryOperation entry)) answer
        have later := inductionHypothesis others
        rw [same] at later
        exact later

/-! ## Rolling back -/

section Cleanup

variable (elapsed : Duration) (outcome : Except SharedError Unit) (answer : Except Error Unit)
  (t : Transaction)

theorem exists_resume_rollback (cause : SharedError) :
    ∃ u, t.resume elapsed (.rollback cause) answer = (some (.restore (.error cause)), u) ∧
      u.ledger = t.ledger := by
  cases answer <;> exact ⟨_, rfl, by simp⟩

theorem exists_resume_restore :
    ∃ u, t.resume elapsed (.restore outcome) answer = (some (.close outcome), u) ∧
      u.ledger = t.ledger := by
  cases answer <;> exact ⟨_, rfl, by simp⟩

theorem exists_resume_close :
    ∃ u, t.resume elapsed (.close outcome) answer = (none, u) ∧
      u.ledger = t.ledger.settle outcome := by
  cases answer <;> exact ⟨_, rfl, by simp [ledger_settle]⟩

end Cleanup

/-- A run goes on to the next phase if that is where every answer leads. -/
theorem Ends.next {next : Phase} (ends : Ends backend { phase := phase } t state u after)
    (goesOn : ∀ answer (t : Transaction), ∃ v,
      t.resume (backend.elapsed phase.operation) phase answer = (some next, v) ∧
        v.ledger = t.ledger) :
    ∃ answer between v, backend.Performs phase.operation 0 state answer between ∧
      Ends backend { phase := next } v between u after ∧ v.ledger = t.ledger := by
  obtain ⟨answer, between, performed⟩ := ends.performs
  obtain ⟨v, resumed, kept⟩ :=
    goesOn answer (t.note [.performed phase.operation (failure? answer)])
  rw [ledger_performed] at kept
  exact ⟨answer, between, v, performed, (ends_iff_of_performs performed resumed).mp ends, kept⟩

/-- A run which is rolled back releases its connection and settles the transaction with the
cause. -/
theorem Ends.released (ends : Ends backend { phase := .rollback cause } t state u after) :
    backend.Releases state after ∧ u.ledger = t.ledger.settle (.error cause) := by
  obtain ⟨rollback, first, v, rolledBack, restoring, kept⟩ :=
    ends.next fun answer t => exists_resume_rollback _ answer t cause
  obtain ⟨restore, second, w, restored, closing, keptAgain⟩ :=
    restoring.next fun answer t => exists_resume_restore _ _ answer t
  obtain ⟨close, last, closed⟩ := closing.performs
  obtain ⟨x, resumed, settled⟩ := exists_resume_close (backend.elapsed .close) (.error cause)
    close (w.note [.performed .close (failure? close)])
  obtain ⟨rfl, rfl⟩ := (ends_iff_of_last closed resumed).mp closing
  refine ⟨⟨rollback, restore, close, first, second, rolledBack, restored, closed⟩, ?_⟩
  rw [settled, ledger_performed, keptAgain, kept]

/-- A run is rolled back if the connection can be released. -/
theorem exists_ends_of_releases (releases : backend.Releases state after) (t : Transaction)
    (cause : SharedError) : ∃ u, Ends backend { phase := .rollback cause } t state u after := by
  obtain ⟨rollback, restore, close, first, second, rolledBack, restored, closed⟩ := releases
  obtain ⟨v, goesOn, -⟩ := exists_resume_rollback (backend.elapsed .rollback) rollback
    (t.note [.performed .rollback (failure? rollback)]) cause
  obtain ⟨w, goesOnAgain, -⟩ := exists_resume_restore (backend.elapsed (.autoCommit true))
    (.error cause) restore (v.note [.performed (.autoCommit true) (failure? restore)])
  obtain ⟨u, ended, -⟩ := exists_resume_close (backend.elapsed .close) (.error cause) close
    (w.note [.performed .close (failure? close)])
  refine ⟨u, (ends_iff_of_performs rolledBack goesOn).mpr ?_⟩
  refine (ends_iff_of_performs restored goesOnAgain).mpr ?_
  exact (ends_iff_of_last closed ended).mpr ⟨rfl, rfl⟩

/-! ## Ending alike -/

/-- Two transactions have the same outcome, and told the same to everyone. -/
structure EndedAlike (t u : Transaction) : Prop where
  state : u.state = t.state
  notices : u.notices = t.notices
  members : t.state = .committed → u.members = t.members

theorem EndedAlike.refl (t : Transaction) : EndedAlike t t :=
  ⟨rfl, rfl, fun _ => rfl⟩

theorem notices_withPast (past : List Event) (t : Transaction) :
    (t.withPast past).notices = past.filter Event.isNotice ++ t.notices :=
  List.filter_append ..

/-- Runs end alike from transactions which differ in their past only, if the same notices are in
it. -/
theorem Ends.alike_of_past {run : Run} (ends : Ends backend run t state u after)
    (same : v = { t with history := v.history }) (notices : v.notices = t.notices) :
    ∃ w, Ends backend run v state w after ∧ EndedAlike u w := by
  have here : t = ({ t with history := [] } : Transaction).withPast t.history := by
    simp [withPast]
  have there : v = ({ t with history := [] } : Transaction).withPast v.history := by
    rw [same]
    simp [withPast]
  rw [here] at ends
  obtain ⟨w, goal, rfl⟩ := (ends_withPast_iff _ _).mp ends
  have again := (ends_withPast_iff v.history backend).mpr ⟨w, goal, rfl⟩
  rw [← there] at again
  refine ⟨w.withPast v.history, again, rfl, ?_, fun _ => rfl⟩
  rw [notices_withPast, notices_withPast]
  exact congrArg (· ++ w.notices) notices

/-- Runs are rolled back alike whatever was recorded before. -/
theorem Ends.alike_of_rollback {lines : List Line}
    (ends : Ends backend { phase := .rollback cause } t state u after)
    (ledger : v.ledger = { t.ledger with lines := lines })
    (notified : lines.map Line.notified = t.ledger.lines.map Line.notified) :
    ∃ w, Ends backend { phase := .rollback cause } v state w after ∧ EndedAlike u w := by
  obtain ⟨releases, settled⟩ := ends.released
  obtain ⟨w, again⟩ := exists_ends_of_releases releases v cause
  have resettled := again.released.2
  rw [ledger] at resettled
  refine ⟨w, again, ?_, ?_, ?_⟩
  · exact (congrArg Ledger.state resettled).trans (congrArg Ledger.state settled).symm
  · have told := lateNotices_congr .rolledBack (.error cause) notified
    refine (congrArg Ledger.notices resettled).trans (.trans ?_ (congrArg Ledger.notices settled).symm)
    simp only [Ledger.settle, told]
  · intro committed
    cases committed.symm.trans (congrArg Ledger.state settled)

/-- Entries for which a connection returns the same are executed alike. -/
theorem Executes.of_returns (executes : Executes backend entries t state phase u after)
    (same : entries.flatMap Entry.statements = others.flatMap Entry.statements)
    (returned : ∀ result, backend.Returns entries state result after →
      backend.Returns others state result after) :
    ∃ v, Executes backend others t state phase v after ∧
      (phase = .commit → v.members = u.members) := by
  rcases executes.returns with ⟨outputs, rfl, successful, members⟩ | ⟨error, rfl, failed⟩
  · obtain ⟨_, v, executes, committed, -⟩ :=
      exists_executes_of_returns (returned _ successful) t
    obtain ⟨rfl, recorded⟩ := committed outputs rfl
    refine ⟨v, executes, fun _ => ?_⟩
    rw [members, recorded, same]
  · obtain ⟨_, v, executes, -, rolledBack⟩ := exists_executes_of_returns (returned _ failed) t
    cases rolledBack error rfl
    exact ⟨v, executes, nofun⟩

/-- Runs end alike if the connection returns the same for their entries. -/
theorem Ends.alike_of_returns (ends : Ends backend { phase := .next entries } t state u after)
    (same : entries.flatMap Entry.statements = others.flatMap Entry.statements)
    (returned : ∀ state result after, backend.Returns entries state result after →
      backend.Returns others state result after) :
    ∃ v, Ends backend { phase := .next others } t state v after ∧ EndedAlike u v := by
  obtain ⟨phase, m, between, executes⟩ := ends.exists_executes
  have rest := executes.ends_iff.mp ends
  obtain ⟨n, again, members⟩ := executes.of_returns same (returned state · between)
  obtain ⟨lines, ledger, notified⟩ := executes.ledger
  obtain ⟨otherLines, otherLedger, otherNotified⟩ := again.ledger
  have alike : ∃ v, Ends backend { phase := phase } n between v after ∧ EndedAlike u v := by
    rcases executes.returns with ⟨_, rfl, -, -⟩ | ⟨_, rfl, -⟩
    · refine rest.alike_of_past ?_ ?_
      · have core := again.eq_of_commit
        rw [members rfl] at core
        rw [core, executes.eq_of_commit]
      · exact (congrArg Ledger.notices otherLedger).trans (congrArg Ledger.notices ledger).symm
    · have same : n.ledger = { m.ledger with lines := otherLines } := by
        rw [ledger]
        exact otherLedger
      refine rest.alike_of_rollback same ?_
      rw [ledger]
      exact otherNotified.trans notified.symm
  obtain ⟨v, ends, alike⟩ := alike
  exact ⟨v, again.ends_iff.mpr ends, alike⟩

/-- So do whole runs, which begin without their entries. -/
theorem Ends.alike_of_acquire (ends : Ends backend { phase := .acquire entries } t state u after)
    (same : entries.flatMap Entry.statements = others.flatMap Entry.statements)
    (returned : ∀ state result after, backend.Returns entries state result after →
      backend.Returns others state result after) :
    ∃ v, Ends backend { phase := .acquire others } t state v after ∧ EndedAlike u v := by
  obtain ⟨acquired, between, performed⟩ := ends.performs
  cases acquired with
  | error error =>
      have ended (entries : List BoundEntry) :
          Ends backend { phase := .acquire entries } t state u after ↔ _ :=
        ends_iff_of_last performed rfl
      exact ⟨u, (ended others).mpr ((ended entries).mp ends), .refl u⟩
  | ok _ =>
      let opened := t.note [.performed .acquire none]
      have acquiring (entries : List BoundEntry) {u : Transaction} :
          Ends backend { phase := .acquire entries } t state u after ↔
            Ends backend { phase := .start entries } opened between u after :=
        ends_iff_of_performs performed rfl
      have starting := (acquiring entries).mp ends
      obtain ⟨started, first, begun⟩ := starting.performs
      cases started with
      | error error =>
          have rollingBack (entries : List BoundEntry) :
              Ends backend { phase := .start entries } opened between u after ↔ _ :=
            ends_iff_of_performs begun rfl
          refine ⟨u, (acquiring others).mpr ?_, .refl u⟩
          exact (rollingBack others).mpr ((rollingBack entries).mp starting)
      | ok _ =>
          have executing (entries : List BoundEntry) {u : Transaction} :
              Ends backend { phase := .start entries } opened between u after ↔
                Ends backend { phase := .next entries }
                  (opened.note [.performed (.autoCommit false) none]) first u after :=
            ends_iff_of_performs begun rfl
          obtain ⟨v, ends, alike⟩ :=
            ((executing entries).mp starting).alike_of_returns same returned
          exact ⟨v, (acquiring others).mpr ((executing others).mpr ends), alike⟩

end Transaction

end NamedSql
