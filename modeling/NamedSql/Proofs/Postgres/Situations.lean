import NamedSql.Proofs.Postgres.Store

/-!
# Connections to a store

Between operations, a connection to a store either has no transaction open, or it has one whose
statements have changed the working copy.  Beginning and ending transactions leads from one
situation to the other, and statements stay within an open transaction.  Only a commit which
succeeds makes anything else durable.
-/

namespace NamedSql.Postgres

variable {δ : Type} {engine : Engine δ} {database : δ} {superseded : List δ}
  {progress : Prepared × δ} {c after : Connection (Store δ)}

/-- No transaction is open on a connection. -/
structure Idle (database : δ) (superseded : List δ) (c : Connection (Store δ)) : Prop where
  inTransaction : c.inTransaction = false
  working : c.server.working = none
  durable : c.server.durable = database
  superseded : c.server.superseded = superseded

/-- A transaction is open on a connection, with the given prepared statements and copy. -/
structure Opened (database : δ) (superseded : List δ) (progress : Prepared × δ)
    (c : Connection (Store δ)) : Prop where
  inTransaction : c.inTransaction = true
  prepared : c.prepared = progress.1
  working : c.server.working = some progress.2
  durable : c.server.durable = database
  superseded : c.server.superseded = superseded

/-! ## Beginning and ending transactions -/

/-- A transaction is begun on a copy of the durable database, unless the command fails. -/
theorem Idle.begin {answer : Except Error Unit} (idle : Idle database superseded c)
    (performed : engine.server.perform (.autoCommit false) c = (answer, after)) :
    (answer = .ok () ∧
      Opened database superseded ((c.prepared.use Command.begin.sql []).2, database) after) ∨
    (∃ error, answer = .error error) ∧ Idle database superseded after := by
  rcases c with ⟨⟨durable, earlier, working, sent⟩, prepared, inTransaction⟩
  rcases idle with ⟨rfl, rfl, rfl, rfl⟩
  simp only [Server.perform, Server.begin, Server.control, Engine.server, Bool.false_eq_true,
    if_false] at performed
  generalize engine.answer .begin _ = answered at performed
  cases answered with
  | ok _ =>
      cases performed
      exact .inl ⟨rfl, rfl, rfl, rfl, rfl, rfl⟩
  | error error =>
      cases performed
      exact .inr ⟨⟨error, rfl⟩, rfl, rfl, rfl, rfl⟩

/-- A commit publishes the copy if it succeeds, and otherwise the transaction is over without
it. -/
theorem Opened.commit {answer : Except Error Unit} (opened : Opened database superseded progress c)
    (performed : engine.server.perform .commit c = (answer, after)) :
    (answer = .ok () ∧ Idle progress.2 (database :: superseded) after) ∨
    (∃ error, answer = .error error) ∧ Idle database superseded after := by
  rcases c with ⟨⟨durable, earlier, working, sent⟩, prepared, inTransaction⟩
  rcases opened with ⟨rfl, -, rfl, rfl, rfl⟩
  simp only [Server.perform, Server.finish, Server.control, Engine.server, if_true] at performed
  generalize engine.answer .commit _ = answered at performed
  cases answered with
  | ok _ =>
      cases performed
      exact .inl ⟨rfl, rfl, rfl, rfl, rfl⟩
  | error error =>
      cases performed
      exact .inr ⟨⟨error, rfl⟩, rfl, rfl, rfl, rfl⟩

/-- A rollback ends the transaction without its copy, whether it succeeds or not. -/
theorem Opened.rollback {answer : Except Error Unit}
    (opened : Opened database superseded progress c)
    (performed : engine.server.finish .rollback c = (answer, after)) :
    Idle database superseded after := by
  rcases c with ⟨⟨durable, earlier, working, sent⟩, prepared, inTransaction⟩
  rcases opened with ⟨rfl, -, rfl, rfl, rfl⟩
  simp only [Server.finish, Server.control, Engine.server, if_true] at performed
  generalize engine.answer .rollback _ = answered at performed
  cases answered <;> cases performed <;> exact ⟨rfl, rfl, rfl, rfl⟩

/-- Without a transaction, nothing is sent to end one. -/
theorem Idle.finish {command : Command} {answer : Except Error Unit}
    (idle : Idle database superseded c)
    (performed : engine.server.finish command c = (answer, after)) :
    Idle database superseded after := by
  rw [Server.finish, idle.inTransaction] at performed
  cases performed
  exact idle

/-! ## Statements -/

/-- A statement which succeeds changes the copy, and nothing else does. -/
theorem Opened.execute (kind : StatementKind) {sql : String} {values : List SqlValue}
    {answer : Except Error Response} (opened : Opened database superseded progress c)
    (executed : engine.server.execute (Sql.numbered sql) values c = (answer, after)) :
    ∃ later, Opened database superseded later after ∧
      ∀ response, answer = .ok response → later = engine.apply progress (kind, sql, values) := by
  rcases c with ⟨⟨durable, earlier, working, sent⟩, prepared, inTransaction⟩
  rcases opened with ⟨rfl, rfl, rfl, rfl, rfl⟩
  simp only [Server.execute, Engine.server] at executed
  generalize engine.answer _ _ = answered at executed
  cases answered with
  | ok response =>
      cases executed
      exact ⟨_, ⟨rfl, rfl, rfl, rfl, rfl⟩, fun _ _ => rfl⟩
  | error error =>
      cases executed
      exact ⟨(_, progress.2), ⟨rfl, rfl, rfl, rfl, rfl⟩, nofun⟩

/-- The statements of a batch which succeeds change the copy in order. -/
theorem Opened.executeAll {sql : String} {rows : List (List SqlValue)}
    {answer : Except Error (List Nat)} (opened : Opened database superseded progress c)
    (executed : engine.server.executeAll (Sql.numbered sql) rows c = (answer, after)) :
    ∃ later, Opened database superseded later after ∧
      ∀ counts, answer = .ok counts →
        later = engine.applyAll (rows.map fun values => (.update, sql, values)) progress := by
  induction rows generalizing c progress answer after with
  | nil =>
      cases executed
      exact ⟨progress, opened, fun _ _ => rfl⟩
  | cons values rows inductionHypothesis =>
      rw [Server.executeAll] at executed
      rcases first : engine.server.execute (Sql.numbered sql) values c with ⟨answered, between⟩
      obtain ⟨middle, still, applied⟩ := opened.execute .update first
      rw [first] at executed
      cases answered with
      | error _ =>
          cases executed
          exact ⟨middle, still, nofun⟩
      | ok response =>
          rcases others : engine.server.executeAll (Sql.numbered sql) rows between with
            ⟨counts, final⟩
          obtain ⟨later, last, appliedAll⟩ := inductionHypothesis still others
          simp only [others] at executed
          cases executed
          refine ⟨later, last, ?_⟩
          intro all succeeded
          cases counts with
          | error _ => cases succeeded
          | ok counts =>
              rw [appliedAll counts rfl, applied response rfl]
              rfl

/-- An operation which executes statements stays within the transaction.  If it succeeds, its
statements have changed the copy in order. -/
theorem Opened.perform {operation : Operation} {answer : Except Error operation.Answer}
    (opened : Opened database superseded progress c) (executes : operation.commands ≠ [])
    (performed : engine.server.perform operation c = (answer, after)) :
    ∃ later, Opened database superseded later after ∧
      ∀ success, answer = .ok success → later = engine.applyAll operation.commands progress := by
  cases operation with
  | query sql values =>
      rcases sent : engine.server.execute (Sql.numbered sql) values c with ⟨answered, between⟩
      obtain ⟨later, still, applied⟩ := opened.execute .query sent
      simp only [Server.perform, sent] at performed
      cases performed
      refine ⟨later, still, ?_⟩
      intro output succeeded
      cases answered with
      | error _ => cases succeeded
      | ok response => exact applied response rfl
  | update sql values =>
      rcases sent : engine.server.execute (Sql.numbered sql) values c with ⟨answered, between⟩
      obtain ⟨later, still, applied⟩ := opened.execute .update sent
      simp only [Server.perform, sent] at performed
      cases performed
      refine ⟨later, still, ?_⟩
      intro count succeeded
      cases answered with
      | error _ => cases succeeded
      | ok response => exact applied response rfl
  | batch sql rows => exact opened.executeAll performed
  | _ => exact absurd rfl executes

end NamedSql.Postgres
