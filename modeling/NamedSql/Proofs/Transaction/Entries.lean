import NamedSql.Proofs.Transaction.Bookkeeping
import NamedSql.Proofs.Transaction.Course

/-!
# Executing entries

An operation is polled until it is answered.  In this way a run executes its entries one after
the other, and comes to the commit after the last one or to the rollback after the first which
failed.  What it has recorded then, and why it failed, follows from what the connection returned
for the entries.
-/

namespace NamedSql

variable {σ : Type} {backend : Backend σ}

/-- An operation, which was suspended the given number of times before, is polled until it is
answered. -/
inductive Backend.Performs (backend : Backend σ) (operation : Operation) :
    Nat → σ → Except Error operation.Answer → σ → Prop where
  | answered {suspended : Nat} {state after : σ} {answer : Except Error operation.Answer}
      (polled : backend.poll operation suspended state = (some answer, after)) :
      Performs backend operation suspended state answer after
  | suspended {suspended : Nat} {state between after : σ}
      {answer : Except Error operation.Answer}
      (polled : backend.poll operation suspended state = (none, between))
      (later : Performs backend operation (suspended + 1) between answer after) :
      Performs backend operation suspended state answer after

/-- What a connection returns for entries which are executed in order: an output for every
statement, or the reason why an entry failed, which is the last one to be executed then. -/
inductive Backend.Returns (backend : Backend σ) :
    List BoundEntry → σ → Except Error (List Output) → σ → Prop where
  | done {state : σ} : Returns backend [] state (.ok []) state
  | failed {entry : BoundEntry} {rest : List BoundEntry} {state after : σ}
      {answer : Except Error (entryOperation entry).Answer} {error : Error}
      (performed : backend.Performs (entryOperation entry) 0 state answer after)
      (failure : (⟨entry, answer⟩ : Attempt).failure = some error) :
      Returns backend (entry :: rest) state (.error error) after
  | executed {entry : BoundEntry} {rest : List BoundEntry} {state between after : σ}
      {answer : Except Error (entryOperation entry).Answer} {result : Except Error (List Output)}
      (performed : backend.Performs (entryOperation entry) 0 state answer between)
      (succeeded : (⟨entry, answer⟩ : Attempt).failure = none)
      (others : Returns backend rest between result after) :
      Returns backend (entry :: rest) state
        (result.map ((⟨entry, answer⟩ : Attempt).outputs ++ ·)) after

/-- The first entry either fails, or what is returned for the others follows its outputs. -/
theorem Backend.returns_cons_iff {entry : BoundEntry} {rest : List BoundEntry} {state after : σ}
    {result : Except Error (List Output)} :
    backend.Returns (entry :: rest) state result after ↔
      ∃ (answer : Except Error (entryOperation entry).Answer) (between : σ),
        backend.Performs (entryOperation entry) 0 state answer between ∧
        ((∃ error, (⟨entry, answer⟩ : Attempt).failure = some error ∧ result = .error error ∧
            between = after) ∨
          ((⟨entry, answer⟩ : Attempt).failure = none ∧
            ∃ later, backend.Returns rest between later after ∧
              result = later.map ((⟨entry, answer⟩ : Attempt).outputs ++ ·))) := by
  constructor
  · intro returned
    cases returned with
    | failed performed failure => exact ⟨_, _, performed, .inl ⟨_, failure, rfl, rfl⟩⟩
    | executed performed succeeded others =>
        exact ⟨_, _, performed, .inr ⟨succeeded, _, others, rfl⟩⟩
  · rintro ⟨answer, between, performed, ⟨error, failure, rfl, rfl⟩ | ⟨succeeded, later, others, rfl⟩⟩
    · exact .failed performed failure
    · exact .executed performed succeeded others

/-- An output is returned for every statement unless an entry fails. -/
theorem Backend.Returns.length_eq {entries : List BoundEntry} {state after : σ}
    {outputs : List Output} (returned : backend.Returns entries state (.ok outputs) after) :
    outputs.length = (entries.flatMap Entry.statements).length := by
  induction entries generalizing state outputs with
  | nil =>
      cases returned
      rfl
  | cons entry rest inductionHypothesis =>
      obtain ⟨answer, _, -, ⟨_, -, failed, -⟩ | ⟨succeeded, later, others, same⟩⟩ :=
        returns_cons_iff.mp returned
      · cases failed
      · cases later with
        | error _ => cases same
        | ok later =>
            cases same
            rw [List.length_append, List.flatMap_cons, List.length_append,
              inductionHypothesis others, Attempt.length_outputs succeeded]

namespace Transaction

/-- A run executes entries in order and comes to a phase: to the commit after the last entry, or
to the rollback after one which failed.  A run which is to execute entries ends as it does from
there, and it ends in no other way. -/
inductive Executes (backend : Backend σ) :
    List BoundEntry → Transaction → σ → Phase → Transaction → σ → Prop where
  | done {t : Transaction} {state : σ} : Executes backend [] t state .commit t state
  | failed {entry : BoundEntry} {rest : List BoundEntry} {t u : Transaction} {state after : σ}
      {answer : Except Error (entryOperation entry).Answer} {cause : SharedError}
      (performed : backend.Performs (entryOperation entry) 0 state answer after)
      (resumed : (t.note [.performed (entryOperation entry) (failure? answer)]).resume
          (backend.elapsed (entryOperation entry)) (.execute entry rest) answer =
        (some (.rollback cause), u)) :
      Executes backend (entry :: rest) t state (.rollback cause) u after
  | executed {entry : BoundEntry} {rest : List BoundEntry} {t next u : Transaction}
      {state between after : σ} {answer : Except Error (entryOperation entry).Answer}
      {phase : Phase}
      (performed : backend.Performs (entryOperation entry) 0 state answer between)
      (resumed : (t.note [.performed (entryOperation entry) (failure? answer)]).resume
          (backend.elapsed (entryOperation entry)) (.execute entry rest) answer =
        (some (.next rest), next))
      (others : Executes backend rest next between phase u after) :
      Executes backend (entry :: rest) t state phase u after

/-! ## Carrying a run on -/

/-- A run is carried on until it ends, again whenever it was suspended. -/
inductive Ends (backend : Backend σ) : Run → Transaction → σ → Transaction → σ → Prop where
  | ended {run : Run} {t u : Transaction} {state after : σ}
      (driven : t.drive backend run state = (none, u, after)) : Ends backend run t state u after
  | suspended {run later : Run} {t between u : Transaction} {state middle after : σ}
      (driven : t.drive backend run state = (some later, between, middle))
      (ends : Ends backend later between middle u after) : Ends backend run t state u after

theorem ends_congr {run other : Run} {t u v : Transaction} {state between after : σ}
    (same : t.drive backend run state = u.drive backend other between) :
    Ends backend run t state v after ↔ Ends backend other u between v after := by
  constructor
  · intro ends
    cases ends with
    | ended driven => exact .ended (same ▸ driven)
    | suspended driven ends => exact .suspended (same ▸ driven) ends
  · intro ends
    cases ends with
    | ended driven => exact .ended (same.trans driven)
    | suspended driven ends => exact .suspended (same.trans driven) ends

variable {phase next : Phase} {suspended : Nat} {t u v : Transaction} {state between after : σ}

theorem ends_iff_of_suspended
    (polled : backend.poll phase.operation suspended state = (none, between)) :
    Ends backend ⟨phase, suspended⟩ t state v after ↔
      Ends backend ⟨phase, suspended + 1⟩ t between v after := by
  have driven : t.drive backend ⟨phase, suspended⟩ state =
      (some ⟨phase, suspended + 1⟩, t, between) := by
    rw [drive, polled]
  constructor
  · intro ends
    cases ends with
    | ended other => cases driven.symm.trans other
    | suspended other ends =>
        cases driven.symm.trans other
        exact ends
  · exact .suspended driven

/-- An answer takes the run to another phase, which is carried on. -/
theorem drive_of_answered {answer : Except Error phase.operation.Answer}
    (polled : backend.poll phase.operation suspended state = (some answer, between))
    (resumed : (t.note [.performed phase.operation (failure? answer)]).resume
      (backend.elapsed phase.operation) phase answer = (some next, u)) :
    t.drive backend ⟨phase, suspended⟩ state = u.drive backend { phase := next } between := by
  rw [drive, polled]
  dsimp only
  split
  next ended => cases resumed.symm.trans ended
  next goesOn =>
    cases resumed.symm.trans goesOn
    rfl

/-- The last answer ends the run. -/
theorem drive_of_last {answer : Except Error phase.operation.Answer}
    (polled : backend.poll phase.operation suspended state = (some answer, between))
    (resumed : (t.note [.performed phase.operation (failure? answer)]).resume
      (backend.elapsed phase.operation) phase answer = (none, u)) :
    t.drive backend ⟨phase, suspended⟩ state = (none, u, between) := by
  rw [drive, polled]
  dsimp only
  split
  next ended =>
    cases resumed.symm.trans ended
    rfl
  next goesOn => cases resumed.symm.trans goesOn

theorem ends_iff_of_answered {answer : Except Error phase.operation.Answer}
    (polled : backend.poll phase.operation suspended state = (some answer, between))
    (resumed : (t.note [.performed phase.operation (failure? answer)]).resume
      (backend.elapsed phase.operation) phase answer = (some next, u)) :
    Ends backend ⟨phase, suspended⟩ t state v after ↔
      Ends backend { phase := next } u between v after :=
  ends_congr (drive_of_answered polled resumed)

/-- However often an operation is suspended, its answer takes the run to the next phase. -/
theorem ends_iff_of_performs {answer : Except Error phase.operation.Answer}
    (performed : backend.Performs phase.operation suspended state answer between)
    (resumed : (t.note [.performed phase.operation (failure? answer)]).resume
      (backend.elapsed phase.operation) phase answer = (some next, u)) :
    Ends backend ⟨phase, suspended⟩ t state v after ↔
      Ends backend { phase := next } u between v after := by
  induction performed with
  | answered polled => exact ends_iff_of_answered polled resumed
  | suspended polled _ inductionHypothesis =>
      exact (ends_iff_of_suspended polled).trans (inductionHypothesis resumed)

/-- A run which is to execute entries ends as it does from the phase to which they lead. -/
theorem Executes.ends_iff {entries : List BoundEntry}
    (executes : Executes backend entries t state phase u between) :
    Ends backend { phase := .next entries } t state v after ↔
      Ends backend { phase := phase } u between v after := by
  induction executes with
  | done => rfl
  | failed performed resumed => exact ends_iff_of_performs performed resumed
  | executed performed resumed _ inductionHypothesis =>
      exact (ends_iff_of_performs performed resumed).trans inductionHypothesis

/-! ## The answer to an entry -/

variable {entry : BoundEntry} {entries : List BoundEntry}
  {answer : Except Error (entryOperation entry).Answer} {error : Error}

@[simp]
theorem errors_logIfSlow (elapsed : Duration) (entry : BoundEntry) (t : Transaction) :
    (t.logIfSlow elapsed entry).errors = t.errors := by
  unfold logIfSlow
  split <;> rfl

@[simp]
theorem members_logIfSlow (elapsed : Duration) (entry : BoundEntry) (t : Transaction) :
    (t.logIfSlow elapsed entry).members = t.members := by
  unfold logIfSlow
  split <;> rfl

/-- An entry which failed leads to the rollback, with the next error as its cause. -/
theorem resume_of_failure (failure : (⟨entry, answer⟩ : Attempt).failure = some error)
    (rest : List BoundEntry) (elapsed : Duration) (t : Transaction) :
    ∃ u, t.resume elapsed (.execute entry rest) answer =
      (some (.rollback ⟨t.errors, error⟩), u) ∧ u.ledger = t.ledger := by
  cases answer with
  | error _ =>
      cases failure
      exact ⟨_, rfl, rfl⟩
  | ok answer =>
      by_cases wrong : ((entryOperation entry).outputs answer).length ≠ entry.statements.length
      · have miscounted : (⟨entry, .ok answer⟩ : Attempt).failure = some (.batchResult
            entry.statements.length ((entryOperation entry).outputs answer).length) := if_pos wrong
        cases miscounted.symm.trans failure
        have resumed : t.resume elapsed (.execute entry rest) (.ok answer) =
            (t.logIfSlow elapsed entry).fail _ fun e => some (.rollback e) := if_pos wrong
        rw [fail, share, errors_logIfSlow] at resumed
        exact ⟨_, resumed, ledger_logIfSlow t elapsed entry⟩
      · have succeeded : (⟨entry, .ok answer⟩ : Attempt).failure = none := if_neg wrong
        cases succeeded.symm.trans failure

/-- The outputs of an entry which did not fail are recorded. -/
theorem resume_of_success (succeeded : (⟨entry, answer⟩ : Attempt).failure = none)
    (rest : List BoundEntry) (elapsed : Duration) (t : Transaction) :
    t.resume elapsed (.execute entry rest) answer =
      (some (.next rest),
        (t.logIfSlow elapsed entry).record entry (⟨entry, answer⟩ : Attempt).outputs) := by
  cases answer with
  | error _ => cases succeeded
  | ok answer =>
      have counted := Attempt.length_outputs succeeded
      exact if_neg (not_not_intro counted)

/-- The members after outputs of numbered statements were recorded. -/
def recorded (executed : List ((Nat × Statement) × Output)) (members : List Member) :
    List Member :=
  executed.foldl
    (fun members executed => members.modify executed.1.1 (Member.record executed.2)) members

theorem recorded_append (first second : List ((Nat × Statement) × Output))
    (members : List Member) :
    recorded (first ++ second) members = recorded second (recorded first members) :=
  List.foldl_append

/-- Outputs of statements which are numbered in order are recorded in order. -/
theorem recorded_zip {executed : List (Nat × Statement)} {outputs : List Output}
    (before : List Member) {members : List Member}
    (numbers : executed.map Prod.fst = List.range' before.length members.length)
    (counted : outputs.length = members.length) :
    recorded (executed.zip outputs) (before ++ members) =
      before ++ List.zipWith Member.record outputs members := by
  induction members generalizing before executed outputs with
  | nil =>
      rw [List.length_nil, List.length_eq_zero_iff] at counted
      rw [counted, List.zip_nil_right]
      rfl
  | cons member members inductionHypothesis =>
      cases outputs with
      | nil => cases counted
      | cons output outputs =>
          cases executed with
          | nil => cases numbers
          | cons first executed =>
              rw [List.map_cons, List.length_cons, List.range'_succ, List.cons.injEq] at numbers
              obtain ⟨here, later⟩ := numbers
              have rest := inductionHypothesis (before ++ [member.record output])
                (by rw [List.length_append]; exact later) (Nat.succ.inj counted)
              rw [List.append_assoc, List.append_assoc] at rest
              rw [List.zip_cons_cons, recorded, List.foldl_cons, here, modify_length_append]
              exact rest

theorem members_record (entry : BoundEntry) (outputs : List Output) (t : Transaction) :
    (t.record entry outputs).members = recorded (entry.statements.zip outputs) t.members :=
  (List.foldl_hom Transaction.members fun _ _ => rfl).symm

theorem errors_record (entry : BoundEntry) (outputs : List Output) (t : Transaction) :
    (t.record entry outputs).errors = t.errors := by
  unfold record
  induction entry.statements.zip outputs generalizing t with
  | nil => rfl
  | cons executed _ inductionHypothesis => exact inductionHypothesis _

/-- A run which ends has performed the operation it waited for. -/
theorem Ends.performs {run : Run} (ends : Ends backend run t state v after) :
    ∃ answer between, backend.Performs run.phase.operation run.suspended state answer between := by
  induction ends with
  | @ended run _ _ state _ driven =>
      rcases polled : backend.poll run.phase.operation run.suspended state with ⟨_ | answer, between⟩
      · rw [drive, polled] at driven
        cases driven
      · exact ⟨answer, between, .answered polled⟩
  | @suspended run _ _ _ _ state _ _ driven _ inductionHypothesis =>
      rcases polled : backend.poll run.phase.operation run.suspended state with ⟨_ | answer, between⟩
      · rw [drive, polled] at driven
        cases driven
        obtain ⟨answer, between, performed⟩ := inductionHypothesis
        exact ⟨answer, between, .suspended polled performed⟩
      · exact ⟨answer, between, .answered polled⟩

/-- A run ends only by executing the entries which it is to execute. -/
theorem Ends.exists_executes (ends : Ends backend { phase := .next entries } t state v after) :
    ∃ phase u between, Executes backend entries t state phase u between := by
  induction entries generalizing t state with
  | nil => exact ⟨_, _, _, .done⟩
  | cons entry rest inductionHypothesis =>
      obtain ⟨answer, between, performed⟩ := ends.performs
      cases failure : (⟨entry, answer⟩ : Attempt).failure with
      | some error =>
          obtain ⟨u, resumed, -⟩ := resume_of_failure failure rest
            (backend.elapsed (entryOperation entry))
            (t.note [.performed (entryOperation entry) (failure? answer)])
          exact ⟨_, _, _, .failed performed resumed⟩
      | none =>
          have resumed := resume_of_success failure rest (backend.elapsed (entryOperation entry))
            (t.note [.performed (entryOperation entry) (failure? answer)])
          obtain ⟨phase, u, last, others⟩ :=
            inductionHypothesis ((ends_iff_of_performs performed resumed).mp ends)
          exact ⟨phase, u, last, .executed performed resumed others⟩

/-! ## What is recorded and why a run fails -/

/-- The transaction after an entry has succeeded. -/
def afterEntry (elapsed : Duration) (entry : BoundEntry)
    (answer : Except Error (entryOperation entry).Answer) (t : Transaction) : Transaction :=
  ((t.note [.performed (entryOperation entry) (failure? answer)]).logIfSlow elapsed entry).record
    entry (⟨entry, answer⟩ : Attempt).outputs

theorem members_afterEntry (elapsed : Duration) (t : Transaction) :
    (t.afterEntry elapsed entry answer).members =
      recorded (entry.statements.zip (⟨entry, answer⟩ : Attempt).outputs) t.members := by
  rw [afterEntry, members_record, members_logIfSlow]
  rfl

theorem errors_afterEntry (elapsed : Duration) (t : Transaction) :
    (t.afterEntry elapsed entry answer).errors = t.errors := by
  rw [afterEntry, errors_record, errors_logIfSlow]
  rfl

/-- The first entry either fails, or the others are executed after it. -/
theorem Executes.of_cons {rest : List BoundEntry}
    (executes : Executes backend (entry :: rest) t state phase u after) :
    ∃ (answer : Except Error (entryOperation entry).Answer) (between : σ),
      backend.Performs (entryOperation entry) 0 state answer between ∧
      ((∃ error, (⟨entry, answer⟩ : Attempt).failure = some error ∧
          phase = .rollback ⟨t.errors, error⟩ ∧ u.ledger = t.ledger ∧ after = between) ∨
        ((⟨entry, answer⟩ : Attempt).failure = none ∧
          Executes backend rest
            (t.afterEntry (backend.elapsed (entryOperation entry)) entry answer) between phase u
            after)) := by
  cases executes with
  | @failed _ _ _ _ _ _ answer _ performed resumed =>
      refine ⟨answer, after, performed, .inl ?_⟩
      cases failure : (⟨entry, answer⟩ : Attempt).failure with
      | none =>
          rw [resume_of_success failure] at resumed
          cases rest <;> cases resumed
      | some error =>
          obtain ⟨_, failed, ledger⟩ := resume_of_failure failure _ _ _
          cases failed.symm.trans resumed
          exact ⟨error, rfl, rfl, ledger.trans (ledger_performed t _ _), rfl⟩
  | @executed _ _ _ _ _ _ between _ answer _ performed resumed others =>
      refine ⟨answer, between, performed, .inr ?_⟩
      cases failure : (⟨entry, answer⟩ : Attempt).failure with
      | some error =>
          obtain ⟨_, failed, -⟩ := resume_of_failure failure _ _ _
          have resumed := failed.symm.trans resumed
          cases rest <;> cases resumed
      | none =>
          rw [resume_of_success failure] at resumed
          cases resumed
          exact ⟨rfl, others⟩

/-- The members record what the connection returned for the statements, or the rollback is
caused by the reason which it returned. -/
theorem Executes.returns (executes : Executes backend entries t state phase u after) :
    (∃ outputs, phase = .commit ∧ backend.Returns entries state (.ok outputs) after ∧
      u.members = recorded ((entries.flatMap Entry.statements).zip outputs) t.members) ∨
    (∃ error, phase = .rollback ⟨t.errors, error⟩ ∧
      backend.Returns entries state (.error error) after) := by
  induction entries generalizing t state with
  | nil =>
      cases executes
      exact .inl ⟨[], rfl, .done, rfl⟩
  | cons entry rest inductionHypothesis =>
      obtain ⟨answer, between, performed, ⟨error, failure, rfl, -, rfl⟩ | ⟨succeeded, others⟩⟩ :=
        executes.of_cons
      · exact .inr ⟨error, rfl, .failed performed failure⟩
      · rcases inductionHypothesis others with
          ⟨outputs, rfl, returned, members⟩ | ⟨error, rfl, returned⟩
        · left
          refine ⟨(⟨entry, answer⟩ : Attempt).outputs ++ outputs, rfl,
            .executed performed succeeded returned, ?_⟩
          rw [members, members_afterEntry, List.flatMap_cons,
            List.zip_append (Attempt.length_outputs succeeded).symm, recorded_append]
        · right
          refine ⟨error, ?_, .executed performed succeeded returned⟩
          rw [errors_afterEntry]

/-- A run executes entries for which the connection returns something. -/
theorem exists_executes_of_returns {result : Except Error (List Output)}
    (returned : backend.Returns entries state result after) (t : Transaction) :
    ∃ phase u, Executes backend entries t state phase u after ∧
      (∀ outputs, result = .ok outputs → phase = .commit ∧
        u.members = recorded ((entries.flatMap Entry.statements).zip outputs) t.members) ∧
      ∀ error, result = .error error → phase = .rollback ⟨t.errors, error⟩ := by
  induction returned generalizing t with
  | done =>
      refine ⟨.commit, t, .done, ?_, nofun⟩
      rintro _ ⟨⟩
      exact ⟨rfl, rfl⟩
  | @failed entry rest _ _ answer error performed failure =>
      obtain ⟨u, resumed, -⟩ := resume_of_failure failure rest (backend.elapsed (entryOperation entry))
        (t.note [.performed (entryOperation entry) (failure? answer)])
      refine ⟨_, u, .failed performed resumed, nofun, ?_⟩
      rintro _ ⟨⟩
      rfl
  | @executed entry rest _ _ _ answer result performed succeeded _ inductionHypothesis =>
      have resumed := resume_of_success succeeded rest (backend.elapsed (entryOperation entry))
        (t.note [.performed (entryOperation entry) (failure? answer)])
      obtain ⟨phase, u, others, committed, rolledBack⟩ := inductionHypothesis
        (t.afterEntry (backend.elapsed (entryOperation entry)) entry answer)
      refine ⟨phase, u, .executed performed resumed others, ?_, ?_⟩
      · intro outputs returned
        cases result with
        | error _ => cases returned
        | ok later =>
            cases returned
            obtain ⟨commit, members⟩ := committed later rfl
            refine ⟨commit, ?_⟩
            rw [members, members_afterEntry, List.flatMap_cons,
              List.zip_append (Attempt.length_outputs succeeded).symm, recorded_append]
      · intro error returned
        cases result with
        | ok _ => cases returned
        | error other =>
            cases returned
            rw [rolledBack error rfl, errors_afterEntry]

end Transaction

end NamedSql
