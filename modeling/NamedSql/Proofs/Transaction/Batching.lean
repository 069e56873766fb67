import NamedSql.Postgres.Connection
import NamedSql.Proofs.Transaction.Calls
import NamedSql.Proofs.Transaction.Endings

/-!
# Batches and single statements

If a connection executes a batch as an update for every row, up to the first failure, then
executing the entries of a plan has the same result as executing every statement alone.
-/

namespace NamedSql

variable {σ : Type} {backend : Backend σ} {sql : String} {state between after : σ}

namespace Backend

/-! ## Batches as updates -/

/-- What a connection returns for an update with each of some rows of values, in order: their
counts, or the first failure. -/
inductive Updates (backend : Backend σ) (sql : String) :
    List (List SqlValue) → σ → Except Error (List Nat) → σ → Prop where
  | done {state : σ} : Updates backend sql [] state (.ok []) state
  | failed {row : List SqlValue} {rows : List (List SqlValue)} {state after : σ} {error : Error}
      (performed : backend.Performs (.update sql row) 0 state (.error error) after) :
      Updates backend sql (row :: rows) state (.error error) after
  | counted {row : List SqlValue} {rows : List (List SqlValue)} {state between after : σ}
      {count : Nat} {answer : Except Error (List Nat)}
      (performed : backend.Performs (.update sql row) 0 state (.ok count) between)
      (others : Updates backend sql rows between answer after) :
      Updates backend sql (row :: rows) state (answer.map (count :: ·)) after

/-- A batch behaves as an update for each of its rows. -/
def BatchesByRow (backend : Backend σ) : Prop :=
  ∀ sql rows state (answer : Except Error (List Nat)) after,
    backend.Performs (.batch sql rows) 0 state answer after ↔
      backend.Updates sql rows state answer after

/-- Updates fail at the first row or after it. -/
theorem updates_error_iff {row : List SqlValue} {rows : List (List SqlValue)} {error : Error} :
    backend.Updates sql (row :: rows) state (.error error) after ↔
      backend.Performs (.update sql row) 0 state (.error error) after ∨
      ∃ count between, backend.Performs (.update sql row) 0 state (.ok count) between ∧
        backend.Updates sql rows between (.error error) after := by
  constructor
  · intro updates
    generalize failed : Except.error error = answer at updates
    cases updates with
    | failed performed =>
        cases failed
        exact .inl performed
    | @counted _ _ _ _ _ _ answer performed others =>
        cases answer with
        | ok _ => cases failed
        | error _ =>
            cases failed
            exact .inr ⟨_, _, performed, others⟩
  · rintro (performed | ⟨count, between, performed, others⟩)
    · exact .failed performed
    · exact .counted performed others

/-- Updates succeed if the first row does and all others do. -/
theorem updates_ok_iff {row : List SqlValue} {rows : List (List SqlValue)} {counts : List Nat} :
    backend.Updates sql (row :: rows) state (.ok counts) after ↔
      ∃ count others between, counts = count :: others ∧
        backend.Performs (.update sql row) 0 state (.ok count) between ∧
        backend.Updates sql rows between (.ok others) after := by
  constructor
  · intro updates
    generalize succeeded : Except.ok counts = answer at updates
    cases updates with
    | failed _ => cases succeeded
    | @counted _ _ _ _ _ _ answer performed others =>
        cases answer with
        | error _ => cases succeeded
        | ok _ =>
            cases succeeded
            exact ⟨_, _, _, rfl, performed, others⟩
  · rintro ⟨count, others, between, rfl, performed, updated⟩
    exact .counted performed updated

/-- There is a count for every row. -/
theorem Updates.length_eq {rows : List (List SqlValue)} {counts : List Nat}
    (updates : backend.Updates sql rows state (.ok counts) after) : counts.length = rows.length := by
  induction rows generalizing state counts with
  | nil =>
      cases updates
      rfl
  | cons row rows inductionHypothesis =>
      obtain ⟨_, _, _, rfl, -, others⟩ := updates_ok_iff.mp updates
      rw [List.length_cons, List.length_cons, inductionHypothesis others]

/-- A backend which performs every operation at once. -/
theorem performs_immediate_iff
    {perform : (operation : Operation) → σ → Except Error operation.Answer × σ}
    {elapsed : Operation → Duration} {operation : Operation} {suspended : Nat}
    {answer : Except Error operation.Answer} :
    (immediate perform elapsed).Performs operation suspended state answer after ↔
      perform operation state = (answer, after) := by
  constructor
  · intro performed
    cases performed with
    | answered polled =>
        cases polled
        rfl
    | suspended polled _ => cases polled
  · intro performed
    apply Performs.answered
    simp only [immediate, performed]

end Backend

namespace Postgres.Server

variable (server : Server σ) (elapsed : Operation → Duration)

/-- Whatever the server is, its batches are updates for each row. -/
theorem batchesByRow : (server.backend elapsed).BatchesByRow := by
  intro sql rows c answer after
  rw [backend, Backend.performs_immediate_iff, perform]
  induction rows generalizing c answer with
  | nil =>
      rw [executeAll]
      constructor
      · rintro ⟨⟩
        exact .done
      · rintro ⟨⟩
        rfl
  | cons row rows inductionHypothesis =>
      have update (count : Except Error Nat) (between : Connection σ) :
          (Backend.immediate server.perform elapsed).Performs (.update sql row) 0 c count between ↔
            ((server.execute (Sql.numbered sql) row c).1.map (·.affected),
              (server.execute (Sql.numbered sql) row c).2) = (count, between) :=
        Backend.performs_immediate_iff
      rw [executeAll]
      generalize server.execute (Sql.numbered sql) row c = executed at update ⊢
      rcases executed with ⟨_ | response, between⟩
      · constructor
        · rintro ⟨⟩
          exact .failed ((update _ _).mpr rfl)
        · intro updates
          cases updates with
          | failed performed =>
              cases (update _ _).mp performed
              rfl
          | counted performed => cases (update _ _).mp performed
      · constructor
        · rintro ⟨⟩
          exact .counted ((update _ _).mpr rfl) ((inductionHypothesis _ _).mp rfl)
        · intro updates
          cases updates with
          | failed performed => cases (update _ _).mp performed
          | counted performed others =>
              cases (update _ _).mp performed
              dsimp only
              rw [(inductionHypothesis _ _).mpr others]

end Postgres.Server

/-! ## Statements which are executed alone -/

/-- A statement as an entry of its own. -/
def Entry.alone {α : Type} (statement : α) : Entry α :=
  ⟨statement, []⟩

namespace Backend

variable {entry : BoundEntry} {statements : List (Nat × Statement)} {rest entries : List BoundEntry}
  {result : Except Error (List Output)}

/-- What is returned for entries after updates: their counts come before the outputs. -/
def ReturnsAfter (backend : Backend σ) (sql : String) (rows : List (List SqlValue))
    (rest : List BoundEntry) (state : σ) (result : Except Error (List Output)) (after : σ) : Prop :=
  (∃ error, result = .error error ∧ backend.Updates sql rows state (.error error) after) ∨
    ∃ counts between later, backend.Updates sql rows state (.ok counts) between ∧
      backend.Returns rest between later after ∧
      result = later.map (counts.map Output.affected ++ ·)

/-- An update which is executed alone. -/
theorem returns_alone_iff {statement : Nat × Statement} {row : List SqlValue}
    (update : statement.2.operation = .update sql row) :
    backend.Returns (.alone statement :: rest) state result after ↔
      (∃ error, result = .error error ∧
        backend.Performs (.update sql row) 0 state (.error error) after) ∨
      ∃ count between later, backend.Performs (.update sql row) 0 state (.ok count) between ∧
        backend.Returns rest between later after ∧
        result = later.map (Output.affected count :: ·) := by
  rcases statement with ⟨id, method, _ | _, query, values⟩
  · cases update
  · cases update
    rw [returns_cons_iff]
    constructor
    · rintro ⟨answer, between, performed, ⟨error, failure, rfl, rfl⟩ | ⟨succeeded, later, others, rfl⟩⟩
      · left
        cases answer with
        | error _ =>
            cases failure
            exact ⟨_, rfl, performed⟩
        | ok _ => cases failure
      · right
        cases answer with
        | error _ => cases succeeded
        | ok count => exact ⟨count, between, later, performed, others, rfl⟩
    · rintro (⟨error, rfl, performed⟩ | ⟨count, between, later, performed, others, rfl⟩)
      · exact ⟨_, _, performed, .inl ⟨error, rfl, rfl, rfl⟩⟩
      · exact ⟨_, _, performed, .inr ⟨rfl, later, others, rfl⟩⟩

theorem returnsAfter_nil_iff :
    backend.ReturnsAfter sql [] rest state result after ↔
      backend.Returns rest state result after := by
  constructor
  · rintro (⟨_, -, updated⟩ | ⟨_, _, later, updated, returned, rfl⟩)
    · cases updated
    · cases updated
      cases later <;> exact returned
  · intro returned
    refine .inr ⟨[], state, result, .done, returned, ?_⟩
    cases result <;> rfl

theorem returnsAfter_cons_iff {row : List SqlValue} {rows : List (List SqlValue)} :
    backend.ReturnsAfter sql (row :: rows) rest state result after ↔
      (∃ error, result = .error error ∧
        backend.Performs (.update sql row) 0 state (.error error) after) ∨
      ∃ count between later, backend.Performs (.update sql row) 0 state (.ok count) between ∧
        backend.ReturnsAfter sql rows rest between later after ∧
        result = later.map (Output.affected count :: ·) := by
  constructor
  · rintro (⟨error, rfl, updated⟩ | ⟨_, final, later, updated, returned, rfl⟩)
    · rcases updates_error_iff.mp updated with performed | ⟨count, between, performed, others⟩
      · exact .inl ⟨error, rfl, performed⟩
      · exact .inr ⟨count, between, .error error, performed, .inl ⟨error, rfl, others⟩, rfl⟩
    · obtain ⟨count, counts, between, rfl, performed, others⟩ := updates_ok_iff.mp updated
      refine .inr ⟨count, between, later.map (counts.map Output.affected ++ ·), performed,
        .inr ⟨counts, final, later, others, returned, rfl⟩, ?_⟩
      cases later <;> rfl
  · rintro (⟨error, rfl, performed⟩ | ⟨count, between, _, performed, others, rfl⟩)
    · exact .inl ⟨error, rfl, .failed performed⟩
    · rcases others with ⟨error, rfl, updated⟩ | ⟨counts, final, later, updated, returned, rfl⟩
      · exact .inl ⟨error, rfl, .counted performed updated⟩
      · refine .inr ⟨count :: counts, final, later, .counted performed updated, returned, ?_⟩
        cases later <;> rfl

/-- Updates with the same text which are executed alone. -/
theorem returns_alone_append_iff
    (updates : ∀ statement ∈ statements, statement.2.operation = .update sql statement.2.values) :
    backend.Returns (statements.map Entry.alone ++ rest) state result after ↔
      backend.ReturnsAfter sql (statements.map (·.2.values)) rest state result after := by
  induction statements generalizing state result with
  | nil => exact returnsAfter_nil_iff.symm
  | cons statement statements inductionHypothesis =>
      obtain ⟨here, others⟩ := List.forall_mem_cons.mp updates
      rw [List.map_cons, List.map_cons, List.cons_append, returns_alone_iff here,
        returnsAfter_cons_iff]
      simp only [inductionHypothesis others]

/-- The answer to a batch has the right number of counts. -/
theorem succeeded_of_updates {first second : Nat × Statement} {others : List (Nat × Statement)}
    {counts : List Nat}
    (updates : backend.Updates sql ((first :: second :: others).map (·.2.values)) state (.ok counts)
      after) : (⟨⟨first, second :: others⟩, .ok counts⟩ : Attempt).failure = none := by
  have counted : (counts.map Output.affected).length = (first :: second :: others).length := by
    rw [List.length_map, updates.length_eq, List.length_map]
  exact if_neg (not_not_intro counted)

/-- A batch of an entry is updates with the same text. -/
theorem returns_batch_iff (byRow : backend.BatchesByRow) {first second : Nat × Statement}
    {others : List (Nat × Statement)} :
    backend.Returns (⟨first, second :: others⟩ :: rest) state result after ↔
      backend.ReturnsAfter first.2.sql ((first :: second :: others).map (·.2.values)) rest state
        result after := by
  have batch (answer : Except Error (List Nat)) (between : σ) :
      backend.Performs (entryOperation ⟨first, second :: others⟩) 0 state answer between ↔
        backend.Updates first.2.sql ((first :: second :: others).map (·.2.values)) state answer
          between := byRow _ _ _ _ _
  rw [returns_cons_iff]
  constructor
  · rintro ⟨answer, between, performed, ⟨error, failure, rfl, rfl⟩ | ⟨succeeded, later, others, rfl⟩⟩
    · have updated := (batch _ _).mp performed
      cases answer with
      | error _ =>
          cases failure
          exact .inl ⟨_, rfl, updated⟩
      | ok counts => cases (succeeded_of_updates updated).symm.trans failure
    · have updated := (batch _ _).mp performed
      cases answer with
      | error _ => cases succeeded
      | ok counts => exact .inr ⟨counts, between, later, updated, others, rfl⟩
  · rintro (⟨error, rfl, updated⟩ | ⟨counts, between, later, updated, returned, rfl⟩)
    · exact ⟨_, _, (batch _ _).mpr updated, .inl ⟨error, rfl, rfl, rfl⟩⟩
    · exact ⟨_, _, (batch _ _).mpr updated,
        .inr ⟨succeeded_of_updates updated, later, returned, rfl⟩⟩

/-- Statements which may share a batch are updates with the same text. -/
theorem operation_of_sameBatch {first second : Statement} (same : first.sameBatch second = true) :
    first.operation = .update first.sql first.values ∧
      second.operation = .update first.sql second.values := by
  obtain ⟨firstUpdate, secondUpdate, shape⟩ := (Statement.sameBatch_iff first second).mp same
  rw [Statement.operation, Statement.operation, firstUpdate, secondUpdate, Statement.sql,
    Query.sql_of_sameShape shape]
  exact ⟨rfl, rfl⟩

/-- An entry has the result of its statements. -/
theorem returns_cons_iff_alone (byRow : backend.BatchesByRow)
    (shared : ∀ other ∈ entry.others, entry.first.2.sameBatch other.2 = true) :
    backend.Returns (entry :: rest) state result after ↔
      backend.Returns (entry.statements.map Entry.alone ++ rest) state result after := by
  rcases entry with ⟨first, _ | ⟨second, others⟩⟩
  · rfl
  · have updates : ∀ statement ∈ first :: second :: others,
        statement.2.operation = .update first.2.sql statement.2.values := by
      intro statement among
      rcases List.mem_cons.mp among with rfl | other
      · exact (operation_of_sameBatch (shared second List.mem_cons_self)).1
      · exact (operation_of_sameBatch (shared statement other)).2
    rw [returns_batch_iff byRow]
    exact (returns_alone_append_iff updates).symm

/-- Entries have the result of all their statements. -/
theorem returns_iff_alone (byRow : backend.BatchesByRow)
    (shared : ∀ entry ∈ entries, ∀ other ∈ entry.others, entry.first.2.sameBatch other.2 = true) :
    backend.Returns entries state result after ↔
      backend.Returns ((entries.flatMap Entry.statements).map Entry.alone) state result after := by
  induction entries generalizing state result with
  | nil => rfl
  | cons entry entries inductionHypothesis =>
      obtain ⟨here, later⟩ := List.forall_mem_cons.mp shared
      rw [List.flatMap_cons, List.map_append, ← returns_cons_iff_alone byRow here,
        returns_cons_iff, returns_cons_iff]
      simp only [inductionHypothesis later]

end Backend

namespace Transaction

open Backend

variable {t u : Transaction} {entries others : List BoundEntry} {phase : Phase}

/-- A run which comes to the commit has recorded an output for every statement, in order, and one
which comes to the rollback has the next error as its cause. -/
theorem Executes.outcome (executes : Executes backend entries t state phase u after)
    (numbers : (entries.flatMap Entry.statements).map Prod.fst = List.range t.members.length) :
    (∃ outputs, phase = .commit ∧ outputs.length = t.members.length ∧
      u.members = List.zipWith Member.record outputs t.members) ∨
    ∃ error, phase = .rollback ⟨t.errors, error⟩ := by
  rcases executes.returns with ⟨outputs, rfl, returned, members⟩ | ⟨error, rfl, -⟩
  · left
    have counted : outputs.length = t.members.length := by
      rw [returned.length_eq, ← List.length_map Prod.fst, numbers, List.length_range]
    rw [List.range_eq_range'] at numbers
    exact ⟨outputs, rfl, counted, members.trans (recorded_zip [] numbers counted)⟩
  · exact .inr ⟨error, rfl⟩

/-- The execution of a complete transaction is the run of its plan. -/
theorem begin_of_ready (ready : t.Ready) (planned : boundPlan t.members = .ok entries) :
    t.begin.1 = .suspended { phase := .acquire entries } := by
  have subscribed : ¬¬ t.awaiting.isEmpty := by simp [ready.subscribed]
  rw [begin, if_neg subscribed, if_neg (not_not_intro ready.counted),
    if_neg (Bool.eq_false_iff.mp ready.gate), if_neg (not_not_intro ready.state)]
  simp only [planned]

/-- A connection to a server executes a batch as an update for each row.  Over every connection
which does, executing the plan of some statements comes to the same phase as executing each
statement alone, in order: to the commit, with the same outputs recorded for all statements, or
to the rollback with the same cause; and the database is left in the same state.  The whole run,
which is the execution of the transaction, then ends like the one which executes each statement
alone: the database is in the same state, and everyone was told the same. -/
theorem batching_invisible :
    (∀ {σ : Type} (server : Postgres.Server σ) (elapsed : Operation → Duration),
      (server.backend elapsed).BatchesByRow) ∧
    ∀ {σ : Type} {backend : Backend σ} {t : Transaction} {statements : List Statement},
      backend.BatchesByRow → t.members.map (·.statement) = statements.map .ok →
      ∃ entries, boundPlan t.members = .ok entries ∧
        (t.Ready → t.begin.1 = .suspended { phase := .acquire entries }) ∧
        (backend.Responsive → ∀ state,
          (∃ phase u after, Executes backend entries t state phase u after) ∧
          ∃ u after, Ends backend { phase := .acquire entries } t state u after) ∧
        let alone := statements.mapIdx fun id statement => Entry.alone (id, statement)
        (∀ state phase after,
          (∀ u, Executes backend entries t state phase u after →
            ((∃ outputs, phase = .commit ∧ outputs.length = statements.length ∧
                u.members = List.zipWith Member.record outputs t.members) ∨
              ∃ error, phase = .rollback ⟨t.errors, error⟩) ∧
            ∃ v, Executes backend alone t state phase v after ∧
              (phase = .commit → v.members = u.members)) ∧
          ∀ v, Executes backend alone t state phase v after →
            ∃ u, Executes backend entries t state phase u after ∧
              (phase = .commit → u.members = v.members)) ∧
        ∀ state,
          ((∃ u after, Ends backend { phase := .acquire entries } t state u after) ↔
            ∃ v after, Ends backend { phase := .acquire alone } t state v after) ∧
          ∀ u v after last, Ends backend { phase := .acquire entries } t state u after →
            Ends backend { phase := .acquire alone } t state v last →
            last = after ∧ EndedAlike u v := by
  refine ⟨fun server elapsed => server.batchesByRow elapsed, ?_⟩
  intro σ backend t statements byRow bound
  obtain ⟨entries, planned, numbered⟩ := exists_planOf statements
  have boundPlan : boundPlan t.members = .ok entries := by
    rw [boundPlan_eq_planOf, bound, planned]
  refine ⟨entries, boundPlan, fun ready => begin_of_ready ready boundPlan, ?_, ?_⟩
  · intro responsive state
    obtain ⟨_, _, executing⟩ := responsive.ends (.next entries) t state
    exact ⟨executing.exists_executes, responsive.ends (.acquire entries) t state⟩
  · intro alone
    have single : alone = (entries.flatMap Entry.statements).map Entry.alone := by
      rw [numbered]
      simp [alone, List.mapIdx_eq_zipIdx_map]
    have same : entries.flatMap Entry.statements = alone.flatMap Entry.statements := by
      rw [single, List.flatMap_map]
      simp [Entry.alone, Entry.statements]
    have alike (state : σ) (result : Except Error (List Output)) (after : σ) :
        backend.Returns entries state result after ↔ backend.Returns alone state result after := by
      rw [single]
      exact returns_iff_alone byRow fun entry among => sameBatch_of_planOf planned among
    have counted : t.members.length = statements.length := by
      simpa using congrArg List.length bound
    have numbers := numbers_of_planOf planned
    rw [List.length_map, ← counted] at numbers
    constructor
    · intro state phase after
      constructor
      · intro u executes
        rw [← counted]
        exact ⟨executes.outcome numbers,
          executes.of_returns same fun result => (alike state result after).mp⟩
      · intro v executes
        exact executes.of_returns same.symm fun result => (alike state result after).mpr
    · intro state
      have batched {u : Transaction} {after : σ}
          (ends : Ends backend { phase := .acquire entries } t state u after) :
          ∃ v, Ends backend { phase := .acquire alone } t state v after ∧ EndedAlike u v :=
        ends.alike_of_acquire same fun state result after => (alike state result after).mp
      refine ⟨⟨?_, ?_⟩, ?_⟩
      · rintro ⟨u, after, ends⟩
        obtain ⟨v, ends, -⟩ := batched ends
        exact ⟨v, after, ends⟩
      · rintro ⟨v, after, ends⟩
        obtain ⟨u, ends, -⟩ := ends.alike_of_acquire same.symm fun state result after =>
          (alike state result after).mpr
        exact ⟨u, after, ends⟩
      · intro u v after last ends others
        obtain ⟨w, again, alike⟩ := batched ends
        obtain ⟨rfl, rfl⟩ := again.unique others
        exact ⟨rfl, alike⟩

/-- Two updates form a batch whose second row fails: the plan comes to the rollback because the
second statement does when it is executed alone, and both runs are rolled back. -/
theorem batching_invisible_of_failed_row :
    let update (id : Int64) : Statement := ⟨"put", .update, ⟨"INSERT INTO item VALUES (?)",
      [⟨1, ⟨"id", none⟩, ⟨0, none⟩, .scalar .bigInt⟩]⟩, [.bigInt id]⟩
    let server : Postgres.Server Nat := ⟨fun _ sent =>
      (if sent = 2 then .error .serialize else .ok { affected := 1 }, sent + 1)⟩
    let backend := server.backend fun _ => ⟨0⟩
    let member (statement : Statement) : Member :=
      { statement := .ok statement, sink := .recorder "sink" false }
    let t : Transaction :=
      { expected := 2, slowQueryThreshold := ⟨0⟩, members := [update 1, update 2].map member }
    ∃ entry : BoundEntry, boundPlan t.members = .ok [entry] ∧ entry.others.length = 1 ∧
      (∃ u after, Executes backend [entry] t { server := 1 } (.rollback ⟨0, .serialize⟩) u after ∧
        after.server = 3) ∧
      ∃ u v after, Ends backend { phase := .acquire [entry] } t { server := 0 } u after ∧
        Ends backend { phase := .acquire [.alone (0, update 1), .alone (1, update 2)] } t
          { server := 0 } v after ∧
        u.state = .rolledBack ∧ v.state = .rolledBack ∧ after.server = 4 := by
  intro update server backend member t
  have bound : t.members.map (·.statement) = [update 1, update 2].map .ok := rfl
  have same : (update 1).sameBatch (update 2) = true := by decide +kernel
  have divided : plan sameBatchBound (numberedStatements t.members) =
      [⟨(0, .ok (update 1)), [(1, .ok (update 2))]⟩] := by
    simp [plan, t, member, numberedStatements, sameBatchBound, same]
  have batched : boundPlan t.members = .ok [⟨(0, update 1), [(1, update 2)]⟩] := by
    rw [boundPlan, divided]
    rfl
  obtain ⟨entries, planned, -, -, alike, whole⟩ :=
    batching_invisible.2 (batching_invisible.1 server fun _ => ⟨0⟩) bound
  cases batched.symm.trans planned
  obtain ⟨u, executes, -⟩ := (alike { server := 1 } _ _).2 _
    (.executed (.answered rfl) rfl (.failed (.answered rfl) rfl))
  refine ⟨_, planned, rfl, ⟨u, _, executes, rfl⟩, ?_⟩
  let driven := t.drive backend { phase := .acquire [⟨(0, update 1), [(1, update 2)]⟩] }
    { server := 0 }
  have ended : driven.1 = none := Option.isNone_iff_eq_none.mp (by decide +kernel)
  have rolledBack : driven.2.1.state = .rolledBack := by decide +kernel
  have sent : driven.2.2.server = 4 := by decide +kernel
  have ends : Ends backend { phase := .acquire [⟨(0, update 1), [(1, update 2)]⟩] } t
      { server := 0 } driven.2.1 driven.2.2 := .ended (Prod.ext ended rfl)
  obtain ⟨v, last, others⟩ := (whole { server := 0 }).1.mp ⟨_, _, ends⟩
  obtain ⟨rfl, endedAlike⟩ := (whole { server := 0 }).2 _ _ _ _ ends others
  exact ⟨_, v, _, ends, others, rolledBack, endedAlike.state.trans rolledBack, sent⟩

end Transaction

end NamedSql
