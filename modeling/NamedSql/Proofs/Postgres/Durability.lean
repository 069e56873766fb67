import NamedSql.Proofs.Postgres.Replay
import NamedSql.Proofs.Postgres.Situations

/-!
# What becomes durable

The answers of a course lead a connection through its transaction.  The durable database stays
what it was until the commit succeeds, which makes the database durable with all statements
executed; no other database is ever durable.
-/

namespace NamedSql.Postgres

variable {δ : Type} {engine : Engine δ} {database : δ} {superseded : List δ}
  {progress : Prepared × δ} {c after : Connection (Store δ)} {entries : List BoundEntry}
  {course : Course entries}

/-- The commands which execute the statements of entries, in order. -/
def commandsOf (entries : List BoundEntry) : List NamedSql.Command :=
  (entries.map entryOperation).flatMap Operation.commands

/-! ## From one situation to another -/

/-- Entries are executed within a transaction.  If none of them fails, their statements have
changed the copy in order. -/
theorem Opened.attempts {attempts : List Attempt}
    (opened : Opened database superseded progress c)
    (replays : Replays engine.server c (attempts.map Attempt.answered) after) :
    ∃ later, Opened database superseded later after ∧
      ((∀ attempt ∈ attempts, attempt.failure = none) →
        later = engine.applyAll (commandsOf (attempts.map Attempt.entry)) progress) := by
  induction attempts generalizing c progress with
  | nil =>
      rw [replays.eq_of_nil]
      exact ⟨progress, opened, fun _ => rfl⟩
  | cons attempt attempts inductionHypothesis =>
      have executes := commands_entryOperation_ne_nil attempt.entry
      obtain ⟨between, performed, others⟩ := replays.head (entryOperation_ne rfl attempt.entry)
      obtain ⟨middle, still, applied⟩ := opened.perform executes performed
      obtain ⟨later, last, appliedAll⟩ := inductionHypothesis still others
      refine ⟨later, last, ?_⟩
      intro succeeded
      obtain ⟨here, later⟩ := List.forall_mem_cons.mp succeeded
      rw [appliedAll later]
      rcases attempt with ⟨entry, _ | answer⟩
      · cases here
      · rw [applied answer rfl, commandsOf, commandsOf, List.map_cons, List.map_cons,
          List.flatMap_cons, Engine.applyAll, Engine.applyAll, Engine.applyAll, List.foldl_append]

/-- On a connection without a transaction, nothing changes until one is begun. -/
theorem Idle.replay {log : List Answered} (idle : Idle database superseded c)
    (ends : ∀ answered ∈ log, answered.operation ∈ [.rollback, .autoCommit true, .close])
    (replays : Replays engine.server c log after) : Idle database superseded after := by
  induction log generalizing c with
  | nil =>
      rw [replays.eq_of_nil]
      exact idle
  | cons answered log inductionHypothesis =>
      obtain ⟨here, later⟩ := List.forall_mem_cons.mp ends
      rcases answered with ⟨operation, answer⟩
      have other : operation ≠ .acquire := by
        rintro rfl
        simp at here
      obtain ⟨between, performed, others⟩ := replays.head other
      apply inductionHypothesis _ later others
      rcases List.mem_cons.mp here with rfl | here
      · exact idle.finish performed
      · rcases List.mem_pair.mp here with rfl | rfl
        · exact idle.finish performed
        · cases performed
          exact idle

/-- What the entries and the commit lead to in a transaction: if all of them succeed, the copy
was published, and otherwise nothing was. -/
theorem Opened.work (opened : Opened database superseded progress c)
    (replays : Replays engine.server c ((Attempt.upToFailure course.attempts).map Attempt.answered ++
      if (course.attempts.findSome? Attempt.failure).isSome then []
      else [⟨.commit, course.commit⟩]) after) :
    (((∀ attempt ∈ course.attempts, attempt.failure = none) ∧ course.commit = .ok ()) ∧
      Idle (engine.applyAll (commandsOf entries) progress).2 (database :: superseded) after) ∨
    ¬ ((∀ attempt ∈ course.attempts, attempt.failure = none) ∧ course.commit = .ok ()) ∧
      (Idle database superseded after ∨ ∃ later, Opened database superseded later after) := by
  obtain ⟨between, attempted, last⟩ := replays.exists_of_append
  obtain ⟨later, still, applied⟩ := opened.attempts attempted
  cases failed : course.attempts.findSome? Attempt.failure with
  | some error =>
      right
      rw [failed, Option.isSome_some, if_pos rfl] at last
      rw [last.eq_of_nil]
      constructor
      · rintro ⟨succeeded, -⟩
        cases (List.findSome?_eq_none_iff.mpr succeeded).symm.trans failed
      · exact .inr ⟨later, still⟩
  | none =>
      have succeeded := List.findSome?_eq_none_iff.mp failed
      rw [Attempt.upToFailure_eq_self succeeded, course.covers] at applied
      rw [failed, Option.isSome_none, if_neg Bool.false_ne_true] at last
      obtain ⟨final, committed, nothing⟩ := last.head (by simp)
      rw [nothing.eq_of_nil]
      rcases still.commit committed with ⟨success, published⟩ | ⟨⟨error, failure⟩, unpublished⟩
      · left
        rw [applied succeeded] at published
        exact ⟨⟨succeeded, success⟩, published⟩
      · right
        constructor
        · rintro ⟨-, success⟩
          cases success.symm.trans failure
        · exact .inl unpublished

/-- What the work over an acquired connection leads to: without a failure, everything was
published, and otherwise nothing was. -/
theorem Idle.work (idle : Idle database superseded c) (acquired : course.acquire = .ok ())
    (replays : Replays engine.server c course.work after) :
    (course.failure = none ∧
      Idle (engine.applyAll (commandsOf entries)
        ((c.prepared.use Command.begin.sql []).2, database)).2 (database :: superseded) after) ∨
    course.failure ≠ none ∧
      (Idle database superseded after ∨ ∃ later, Opened database superseded later after) := by
  rw [Course.work] at replays
  obtain ⟨between, begun, others⟩ := replays.head (by simp)
  cases started : course.start with
  | ok _ =>
      rw [started] at begun others
      rcases idle.begin begun with ⟨-, opened⟩ | ⟨⟨_, refused⟩, -⟩
      · rcases opened.work others with ⟨succeeded, published⟩ | ⟨failed, unpublished⟩
        · left
          exact ⟨course.failure_eq_none.mpr ⟨acquired, started, succeeded⟩, published⟩
        · right
          constructor
          · intro unfailing
            exact failed (course.failure_eq_none.mp unfailing).2.2
          · exact unpublished
      · cases refused
  | error error =>
      rw [started] at begun others
      rcases idle.begin begun with ⟨success, -⟩ | ⟨-, still⟩
      · cases success
      · right
        rw [others.eq_of_nil]
        constructor
        · intro unfailing
          cases started.symm.trans (course.failure_eq_none.mp unfailing).2.1
        · exact .inl still

/-! ## From the beginning of a course -/

/-- Nothing has become durable. -/
def Unchanged (before after : Store δ) : Prop :=
  after.durable = before.durable ∧ after.superseded = before.superseded

/-- One database has become durable, in place of the one before. -/
def Published (database : δ) (before after : Store δ) : Prop :=
  after.durable = database ∧ after.superseded = before.durable :: before.superseded

theorem Idle.unchanged (idle : Idle c.server.durable c.server.superseded after) :
    Unchanged c.server after.server :=
  ⟨idle.durable, idle.superseded⟩

theorem Opened.unchanged (opened : Opened c.server.durable c.server.superseded progress after) :
    Unchanged c.server after.server :=
  ⟨opened.durable, opened.superseded⟩

theorem Idle.published (idle : Idle database (c.server.durable :: c.server.superseded) after) :
    Published database c.server after.server :=
  ⟨idle.durable, idle.superseded⟩

variable {log : List Answered} {outputs : List Output}

/-- A connection which is acquired has no transaction. -/
theorem idle_of_acquired (fresh : c.server.working = none)
    (replays : Replays engine.server c (⟨.acquire, .ok ()⟩ :: log) after) :
    ∃ between, Idle c.server.durable c.server.superseded between ∧ between.prepared = c.prepared ∧
      Replays engine.server between log after := by
  cases replays with
  | performed performed others =>
      cases performed
      exact ⟨{ c with inTransaction := false }, ⟨rfl, fresh, rfl, rfl⟩, rfl, others⟩

/-- What a course leads to up to its cleanup. -/
theorem worked_of_replays (fresh : c.server.working = none) (acquired : course.acquire = .ok ())
    (replays : Replays engine.server c (⟨.acquire, .ok ()⟩ :: course.work) after) :
    (course.failure = none ∧ Idle (engine.transacted (commandsOf entries) c)
      (c.server.durable :: c.server.superseded) after) ∨
    course.failure ≠ none ∧ (Idle c.server.durable c.server.superseded after ∨
      ∃ later, Opened c.server.durable c.server.superseded later after) := by
  obtain ⟨between, idle, prepared, others⟩ := idle_of_acquired fresh replays
  have worked := idle.work acquired others
  rwa [prepared] at worked

/-- What a course leads to with some of its cleanup. -/
theorem cleaned_of_replays {ends : List Answered} (fresh : c.server.working = none)
    (acquired : course.acquire = .ok ())
    (only : ∀ answered ∈ ends, answered.operation ∈ [.rollback, .autoCommit true, .close])
    (replays : Replays engine.server c
      (⟨.acquire, .ok ()⟩ :: (course.work ++ (course.undo ++ ends))) after) :
    (course.failure = none ∧ Idle (engine.transacted (commandsOf entries) c)
      (c.server.durable :: c.server.superseded) after) ∨
    course.failure ≠ none ∧ Idle c.server.durable c.server.superseded after := by
  rw [← List.cons_append] at replays
  obtain ⟨between, worked, cleanup⟩ := replays.exists_of_append
  obtain ⟨middle, undone, last⟩ := cleanup.exists_of_append
  rcases worked_of_replays fresh acquired worked with ⟨unfailing, published⟩ | ⟨failed, situation⟩
  · left
    rw [Course.undo, unfailing, Option.isSome_none, if_neg Bool.false_ne_true] at undone
    rw [undone.eq_of_nil] at last
    exact ⟨unfailing, published.replay only last⟩
  · right
    rw [Course.undo, if_pos (Option.isSome_iff_ne_none.mpr failed)] at undone
    obtain ⟨_, performed, nothing⟩ := undone.head (by simp)
    rw [nothing.eq_of_nil] at last
    rcases situation with idle | ⟨_, opened⟩
    · exact ⟨failed, (idle.finish performed).replay only last⟩
    · exact ⟨failed, (opened.rollback performed).replay only last⟩

/-- After a whole course, no transaction is open.  Without a failure the database with all
statements was published, and otherwise nothing was. -/
theorem concluded_of_replays (fresh : c.server.working = none)
    (replays : Replays engine.server c course.trace after) :
    after.server.working = none ∧
      ((course.failure = none ∧
        Published (engine.transacted (commandsOf entries) c) c.server after.server) ∨
      course.failure ≠ none ∧ Unchanged c.server after.server) := by
  cases acquired : course.acquire with
  | ok _ =>
      rw [Course.trace_of_acquired acquired, List.append_assoc] at replays
      have only : ∀ answered ∈ [(⟨.autoCommit true, course.restore⟩ : Answered),
          ⟨.close, course.close⟩], answered.operation ∈ [.rollback, .autoCommit true, .close] := by
        simp
      rcases cleaned_of_replays fresh acquired only replays with ⟨unfailing, idle⟩ | ⟨failed, idle⟩
      · exact ⟨idle.working, .inl ⟨unfailing, idle.published⟩⟩
      · exact ⟨idle.working, .inr ⟨failed, idle.unchanged⟩⟩
  | error error =>
      have refused : course.trace = [⟨.acquire, .error error⟩] := by
        simp only [Course.trace, acquired]
      rw [refused] at replays
      have same : after = c := by
        cases replays with
        | performed performed => cases performed
        | refused others => exact others.eq_of_nil
      subst same
      refine ⟨fresh, .inr ⟨?_, rfl, rfl⟩⟩
      intro unfailing
      cases acquired.symm.trans (course.failure_eq_none.mp unfailing).1

/-- At every stage of a course, nothing or the database with all statements was published. -/
theorem durable_of_reached {phase : Phase} (fresh : c.server.working = none)
    (reached : phase.Reached entries log outputs)
    (replays : Replays engine.server c log after) :
    Unchanged c.server after.server ∨
      Published (engine.transacted (commandsOf entries) c) c.server after.server := by
  have remaining {rest : List BoundEntry} (remaining : Remaining entries rest log outputs) :
      Unchanged c.server after.server := by
    obtain ⟨done, -, -, rfl, -⟩ := remaining
    obtain ⟨between, idle, -, others⟩ := idle_of_acquired fresh replays
    obtain ⟨middle, begun, attempted⟩ := others.head (by simp)
    rcases idle.begin begun with ⟨-, opened⟩ | ⟨⟨_, refused⟩, -⟩
    · obtain ⟨later, still, -⟩ := opened.attempts attempted
      exact still.unchanged
    · cases refused
  have cleaned {outcome : Except SharedError Unit} {ends : (course : Course entries) → List Answered}
      (only : ∀ course, ∀ answered ∈ ends course,
        answered.operation ∈ [.rollback, .autoCommit true, .close])
      (worked : Worked entries log outputs outcome fun course => course.undo ++ ends course) :
      Unchanged c.server after.server ∨
        Published (engine.transacted (commandsOf entries) c) c.server after.server := by
    obtain ⟨course, acquired, -, rfl, -⟩ := worked
    rcases cleaned_of_replays fresh acquired (only course) replays with ⟨-, idle⟩ | ⟨-, idle⟩
    · exact .inr idle.published
    · exact .inl idle.unchanged
  cases phase with
  | acquire planned =>
      obtain ⟨-, rfl, -⟩ := reached
      rw [replays.eq_of_nil]
      exact .inl ⟨rfl, rfl⟩
  | start planned =>
      obtain ⟨-, rfl, -⟩ := reached
      obtain ⟨between, idle, -, nothing⟩ := idle_of_acquired fresh replays
      rw [nothing.eq_of_nil]
      exact .inl idle.unchanged
  | execute entry rest => exact .inl (remaining reached)
  | commit => exact .inl (remaining reached)
  | rollback cause =>
      obtain ⟨course, acquired, -, rfl, -⟩ := reached
      rw [List.append_nil] at replays
      rcases worked_of_replays fresh acquired replays with
        ⟨-, idle⟩ | ⟨-, idle | ⟨_, opened⟩⟩
      · exact .inr idle.published
      · exact .inl idle.unchanged
      · exact .inl opened.unchanged
  | restore outcome =>
      obtain ⟨course, acquired, decides, trace, recorded⟩ := reached
      rw [← List.append_nil course.undo] at trace
      exact cleaned (fun _ => List.forall_mem_nil _) ⟨course, acquired, decides, trace, recorded⟩
  | close outcome =>
      apply cleaned _ reached
      simp

/-! ## Transactions -/

/-- All statements are bound, and the database with all of them has become durable. -/
def Entire (engine : Engine δ) (c : Connection (Store δ))
    (statements : List (Except SharedError Statement)) (after : Store δ) : Prop :=
  ∃ bound : List Statement, statements = bound.map .ok ∧
    Published (engine.transacted (bound.map Statement.command) c) c.server after

variable {statements : List (Except SharedError Statement)} {exchanges : List Exchange}
  {outcome : Except SharedError Unit}

theorem entire_of_published (planned : planOf statements = .ok entries)
    (published : Published (engine.transacted (commandsOf entries) c) c.server after.server) :
    Entire engine c statements after.server := by
  rw [commandsOf, commands_of_planOf planned] at published
  exact ⟨_, bound_of_planOf planned, published⟩

/-- A transaction which succeeded has made all of its statements durable, and one which failed has
made none durable. -/
theorem durable_of_concluded (fresh : c.server.working = none)
    (concluded : Concluded statements exchanges outcome outputs)
    (replays : Replays engine.server c (Exchange.answers exchanges) after) :
    after.server.working = none ∧
      (outcome = .ok () → Entire engine c statements after.server) ∧
      ∀ error, outcome = .error error → Unchanged c.server after.server := by
  cases concluded with
  | unbound _ silent =>
      rw [silent] at replays
      rw [replays.eq_of_nil]
      simp [fresh, Unchanged]
  | conducted planned course answered _ decides =>
      rw [answered] at replays
      have failure : course.failure = (error? outcome).map SharedError.error := decides
      obtain ⟨closed, ⟨unfailing, published⟩ | ⟨failed, unchanged⟩⟩ :=
        concluded_of_replays fresh replays
      · refine ⟨closed, fun _ => entire_of_published planned published, ?_⟩
        rintro error rfl
        cases unfailing.symm.trans failure
      · refine ⟨closed, ?_, fun _ _ => unchanged⟩
        rintro rfl
        exact absurd failure failed

/-- Wherever a transaction stands, it has made nothing or all of its statements durable. -/
theorem durable_of_standing {ledger : Ledger} {callback : Option String} {current : Option Run}
    (fresh : c.server.working = none) (standing : ledger.Standing exchanges callback current)
    (replays : Replays engine.server c (Exchange.answers exchanges) after) :
    Unchanged c.server after.server ∨ Entire engine c ledger.statements after.server := by
  cases standing with
  | gathering _ silent _ =>
      rw [silent] at replays
      rw [replays.eq_of_nil]
      exact .inl ⟨rfl, rfl⟩
  | underway underway _ =>
      rcases durable_of_reached fresh underway.reached replays with unchanged | published
      · exact .inl unchanged
      · exact .inr (entire_of_published underway.planned published)
  | @settled outcome _ settled =>
      obtain ⟨-, succeeded, failed⟩ := durable_of_concluded fresh settled.concluded replays
      cases outcome with
      | ok _ => exact .inr (succeeded rfl)
      | error error => exact .inl (failed error rfl)

end NamedSql.Postgres
