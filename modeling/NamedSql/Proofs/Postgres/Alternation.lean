import NamedSql.Postgres.Connection
import Mathlib.Data.List.Induction

/-!
# How transactions alternate on a connection

Over one connection, transactions are begun and ended in turn, in whatever order its operations
are called and whatever the server answers.  The commands which are sent follow a small automaton
whose state is what the connection remembers; a server whose transactions are begun and ended by
these commands alone is always in the same state.
-/

namespace NamedSql.Postgres

variable {σ : Type}

/-- A command which was sent, and whether it succeeded. -/
structure Receipt where
  command : Command
  succeeded : Bool

namespace Receipt

/-- Whether a transaction was begun. -/
def isBegin : Receipt → Bool
  | ⟨.begin, succeeded⟩ => succeeded
  | _ => false

/-- Whether the end of a transaction was sent, be it with success or not. -/
def isEnd : Receipt → Bool
  | ⟨.commit, _⟩ | ⟨.rollback, _⟩ => true
  | _ => false

/-- Whether a statement was sent, which neither begins nor ends a transaction. -/
def isStatement : Receipt → Bool
  | ⟨.statement .., _⟩ => true
  | _ => false

variable {receipt : Receipt}

theorem not_isBegin_of_isEnd (ends : receipt.isEnd = true) : receipt.isBegin = false := by
  rcases receipt with ⟨_ | _ | _ | _, _⟩
  · cases ends
  all_goals rfl

theorem not_begin_of_isEnd (ends : receipt.isEnd = true) : receipt.command ≠ .begin := by
  rcases receipt with ⟨_ | _ | _ | _, _⟩
  · cases ends
  all_goals exact nofun

theorem of_isStatement (statement : receipt.isStatement = true) :
    receipt.command ≠ .begin ∧ receipt.isBegin = false ∧ receipt.isEnd = false := by
  rcases receipt with ⟨_ | _ | _ | _, _⟩
  case statement => exact ⟨nofun, rfl, rfl⟩
  all_goals cases statement

end Receipt

/-- A transaction was begun, and no end of it was sent since. -/
def Unended (sent : List Receipt) : Prop :=
  ∃ before after, sent = before ++ ⟨.begin, true⟩ :: after ∧
    ∀ receipt ∈ after, receipt.isEnd = false

namespace Server

/-- The same server, which also records what it was sent. -/
def recording (server : Server σ) : Server (σ × List Receipt) where
  send command state :=
    let (answer, next) := server.send command state.1
    (answer, next, state.2 ++ [⟨command, answer.isOk⟩])

/-- Perform operations over a connection, one after the other. -/
def performAll (server : Server σ) (operations : List Operation) (c : Connection σ) :
    Connection σ :=
  operations.foldl (fun c operation => (server.perform operation c).2) c

/-- The server's transaction, as a view of its state, is opened by beginning one with success,
and it is closed by its end, whatever is answered to that.  No other command changes whether one
is open. -/
structure Transactional (server : Server σ) (isOpen : σ → Bool) : Prop where
  begun : ∀ state response, (server.send .begin state).1 = .ok response →
    isOpen (server.send .begin state).2 = true
  refused : ∀ state error, (server.send .begin state).1 = .error error →
    isOpen state = false → isOpen (server.send .begin state).2 = false
  committed : ∀ state, isOpen (server.send .commit state).2 = false
  rolledBack : ∀ state, isOpen (server.send .rollback state).2 = false
  executed : ∀ sql types values state,
    isOpen (server.send (.statement sql types values) state).2 = isOpen state

end Server

theorem not_unended_nil : ¬ Unended [] := by
  rintro ⟨before, after, split, -⟩
  cases before <;> cases split

/-- A transaction is underway after one more command if that began one, or did not end it. -/
theorem unended_concat {sent : List Receipt} {receipt : Receipt} :
    Unended (sent ++ [receipt]) ↔
      receipt = ⟨.begin, true⟩ ∨ Unended sent ∧ receipt.isEnd = false := by
  constructor
  · rintro ⟨before, after, split, unended⟩
    rcases List.eq_nil_or_concat after with rfl | ⟨after, last, rfl⟩
    · obtain ⟨-, same⟩ := List.append_inj' split rfl
      exact .inl (List.cons.inj same).1
    · rw [List.concat_eq_append, ← List.cons_append, ← List.append_assoc] at split
      obtain ⟨earlier, same⟩ := List.append_inj' split rfl
      obtain ⟨rfl, -⟩ := List.cons.inj same
      exact .inr ⟨⟨before, after, earlier, fun _ member => unended _ (by simp [member])⟩,
        unended _ (by simp)⟩
  · rintro (rfl | ⟨⟨before, after, rfl, unended⟩, other⟩)
    · exact ⟨sent, [], rfl, nofun⟩
    · refine ⟨before, after ++ [receipt], by simp, fun each member => ?_⟩
      rcases List.mem_append.1 member with member | member
      · exact unended each member
      · rw [List.mem_singleton.1 member, other]

/-! ## The automaton of the commands -/

/-- Commands are sent in this order between two times: a transaction is begun only while none is,
and ended only while one is. -/
inductive Follows : Bool → List Receipt → Bool → Prop where
  | nil {inTransaction : Bool} : Follows inTransaction [] inTransaction
  | begin {succeeded final : Bool} {later : List Receipt} (others : Follows succeeded later final) :
      Follows false (⟨.begin, succeeded⟩ :: later) final
  | finish {receipt : Receipt} {final : Bool} {later : List Receipt} (ends : receipt.isEnd = true)
      (others : Follows false later final) : Follows true (receipt :: later) final
  | execute {receipt : Receipt} {inTransaction final : Bool} {later : List Receipt}
      (statement : receipt.isStatement = true) (others : Follows inTransaction later final) :
      Follows inTransaction (receipt :: later) final

namespace Follows

variable {first between final : Bool} {receipt : Receipt} {sent before later : List Receipt}

theorem append (earlier : Follows first before between) (rest : Follows between later final) :
    Follows first (before ++ later) final := by
  induction earlier with
  | nil => exact rest
  | begin _ inductionHypothesis => exact .begin (inductionHypothesis rest)
  | finish ends _ inductionHypothesis => exact .finish ends (inductionHypothesis rest)
  | execute statement _ inductionHypothesis => exact .execute statement (inductionHypothesis rest)

theorem exists_of_append (follows : Follows first (before ++ later) final) :
    ∃ between, Follows first before between ∧ Follows between later final := by
  induction before generalizing first with
  | nil => exact ⟨first, .nil, follows⟩
  | cons receipt before inductionHypothesis =>
      cases follows with
      | begin others =>
          obtain ⟨between, earlier, rest⟩ := inductionHypothesis others
          exact ⟨between, .begin earlier, rest⟩
      | finish ends others =>
          obtain ⟨between, earlier, rest⟩ := inductionHypothesis others
          exact ⟨between, .finish ends earlier, rest⟩
      | execute statement others =>
          obtain ⟨between, earlier, rest⟩ := inductionHypothesis others
          exact ⟨between, .execute statement earlier, rest⟩

theorem idle_of_begin (follows : Follows first (receipt :: later) final)
    (begins : receipt.command = .begin) : first = false := by
  cases follows with
  | begin _ => rfl
  | finish ends _ => exact absurd begins (Receipt.not_begin_of_isEnd ends)
  | execute statement _ => exact absurd begins (Receipt.of_isStatement statement).1

theorem busy_of_end (follows : Follows first (receipt :: later) final)
    (ends : receipt.isEnd = true) : first = true := by
  cases follows with
  | begin _ => cases ends
  | finish _ _ => rfl
  | execute statement _ =>
      rw [(Receipt.of_isStatement statement).2.2] at ends
      cases ends

/-- Every transaction which was begun was ended, except the one which is underway. -/
theorem countP_add (follows : Follows first sent final) :
    first.toNat + sent.countP Receipt.isBegin = sent.countP Receipt.isEnd + final.toNat := by
  induction follows with
  | nil => exact Nat.add_comm _ _
  | @begin succeeded final later _ inductionHypothesis =>
      have begun : (⟨.begin, succeeded⟩ :: later).countP Receipt.isBegin =
          later.countP Receipt.isBegin + succeeded.toNat := by
        cases succeeded
        · rfl
        · exact List.countP_cons_of_pos rfl
      have ended : (⟨.begin, succeeded⟩ :: later).countP Receipt.isEnd =
          later.countP Receipt.isEnd := rfl
      rw [begun, ended, ← inductionHypothesis, Bool.toNat_false]
      omega
  | finish ends _ inductionHypothesis =>
      have other := Receipt.not_isBegin_of_isEnd ends
      rw [List.countP_cons_of_neg (by simp [other]), List.countP_cons_of_pos ends]
      simp only [Bool.toNat_true, Bool.toNat_false] at *
      omega
  | execute statement _ inductionHypothesis =>
      obtain ⟨-, begins, ends⟩ := Receipt.of_isStatement statement
      rw [List.countP_cons_of_neg (by simp [begins]), List.countP_cons_of_neg (by simp [ends])]
      exact inductionHypothesis

/-- A transaction is underway at the end exactly if the last one which was begun was not ended. -/
theorem unended_iff (follows : Follows false sent final) : Unended sent ↔ final = true := by
  induction sent using List.reverseRecOn generalizing final with
  | nil =>
      cases follows
      exact iff_of_false not_unended_nil nofun
  | append_singleton sent receipt inductionHypothesis =>
      obtain ⟨between, earlier, last⟩ := follows.exists_of_append
      rw [unended_concat, inductionHypothesis earlier]
      cases last with
      | begin others =>
          cases others
          simp
      | finish ends others =>
          cases others
          refine iff_of_false ?_ nofun
          rintro (rfl | ⟨-, other⟩)
          · cases ends
          · rw [ends] at other
            cases other
      | execute statement others =>
          cases others
          obtain ⟨other, -, unended⟩ := Receipt.of_isStatement statement
          constructor
          · rintro (rfl | ⟨underway, -⟩)
            · exact absurd rfl other
            · exact underway
          · exact fun underway => .inr ⟨underway, unended⟩

end Follows

/-! ## What one operation sends -/

/-- What is sent by one operation: a command which begins a transaction or one which ends it, or
statements. -/
inductive Sends : Bool → List Receipt → Bool → Prop where
  | begin {succeeded : Bool} : Sends false [⟨.begin, succeeded⟩] succeeded
  | finish {receipt : Receipt} (ends : receipt.isEnd = true) : Sends true [receipt] false
  | execute {inTransaction : Bool} {sent : List Receipt}
      (statements : ∀ receipt ∈ sent, receipt.isStatement = true) :
      Sends inTransaction sent inTransaction

namespace Sends

variable {first final : Bool} {receipt : Receipt} {sent : List Receipt}

theorem follows (sends : Sends first sent final) : Follows first sent final := by
  cases sends with
  | begin => exact .begin .nil
  | finish ends => exact .finish ends .nil
  | execute statements =>
      induction sent with
      | nil => exact .nil
      | cons receipt sent inductionHypothesis =>
          obtain ⟨statement, statements⟩ := List.forall_mem_cons.1 statements
          exact .execute statement (inductionHypothesis statements)

/-- A transaction is only begun while none is underway, and only ended while one is. -/
theorem legal (sends : Sends first sent final) (member : receipt ∈ sent) :
    (receipt.command = .begin → first = false) ∧ (receipt.isEnd = true → first = true) := by
  cases sends with
  | begin =>
      obtain rfl := List.mem_singleton.1 member
      exact ⟨fun _ => rfl, nofun⟩
  | finish ends =>
      obtain rfl := List.mem_singleton.1 member
      exact ⟨fun begins => absurd begins (Receipt.not_begin_of_isEnd ends), fun _ => rfl⟩
  | execute statements =>
      obtain ⟨other, -, unended⟩ := Receipt.of_isStatement (statements receipt member)
      refine ⟨fun begins => absurd begins other, fun ends => ?_⟩
      rw [unended] at ends
      cases ends

end Sends

namespace Server

variable {server : Server σ}

theorem control_eq (server : Server σ) (command : Command) (c : Connection σ) :
    server.control command c =
      ((server.send command c.server).1,
        { c with
          server := (server.send command c.server).2
          prepared := (c.prepared.use command.sql []).2 }) :=
  rfl

/-- Without a transaction, one is begun if the server agrees. -/
theorem of_begin {c : Connection σ} (idle : c.inTransaction = false) :
    (server.begin c).2.server = (server.send .begin c.server).2 ∧
      (server.begin c).2.inTransaction = (server.send .begin c.server).1.isOk := by
  rw [begin, if_neg (by simp [idle]), control_eq]
  cases (server.send .begin c.server).1 with
  | ok response => exact ⟨rfl, rfl⟩
  | error error => exact ⟨rfl, idle⟩

/-- A transaction is over when its end was sent, whatever the server answers. -/
theorem of_finish {command : Command} {c : Connection σ} (busy : c.inTransaction = true) :
    (server.finish command c).2.server = (server.send command c.server).2 ∧
      (server.finish command c).2.inTransaction = false := by
  rw [finish, if_pos busy, control_eq]
  exact ⟨rfl, rfl⟩

/-- What a single statement keeps is kept by a batch. -/
theorem executeAll_keeps {sql : String} {kept : Connection σ → Prop}
    (executed : ∀ values c, kept c → kept (server.execute sql values c).2)
    (rows : List (List SqlValue)) {c : Connection σ} (holds : kept c) :
    kept (server.executeAll sql rows c).2 := by
  induction rows generalizing c with
  | nil => exact holds
  | cons values rows inductionHypothesis =>
      have later := executed values c holds
      rw [executeAll]
      rcases answered : server.execute sql values c with ⟨_ | response, next⟩ <;>
        rw [answered] at later
      · exact later
      · exact inductionHypothesis later

/-! ### The record -/

/-- Between two times, a connection has sent what one operation may send. -/
def SentOne (c after : Connection (σ × List Receipt)) : Prop :=
  ∃ more, after.server.2 = c.server.2 ++ more ∧ Sends c.inTransaction more after.inTransaction

/-- Between two times, a connection has sent nothing but statements. -/
def SentStatements (c after : Connection (σ × List Receipt)) : Prop :=
  ∃ more, after.server.2 = c.server.2 ++ more ∧ after.inTransaction = c.inTransaction ∧
    ∀ receipt ∈ more, receipt.isStatement = true

variable {c : Connection (σ × List Receipt)}

theorem sentStatements_refl : SentStatements c c :=
  ⟨[], (List.append_nil _).symm, rfl, nofun⟩

theorem sent_execute (server : Server σ) (sql : String) (values : List SqlValue)
    (c : Connection (σ × List Receipt)) :
    ∃ receipt, (server.recording.execute sql values c).2.server.2 = c.server.2 ++ [receipt] ∧
      receipt.isStatement = true :=
  ⟨_, rfl, rfl⟩

theorem SentStatements.execute {sql : String} (values : List SqlValue)
    (between : Connection (σ × List Receipt)) (statements : SentStatements c between) :
    SentStatements c (server.recording.execute sql values between).2 := by
  obtain ⟨more, sent, same, statements⟩ := statements
  obtain ⟨last, later, statement⟩ := server.sent_execute sql values between
  refine ⟨more ++ [last], ?_, same, fun receipt member => ?_⟩
  · rw [later, sent, List.append_assoc]
  · rcases List.mem_append.1 member with member | member
    · exact statements receipt member
    · rwa [List.mem_singleton.1 member]

theorem SentStatements.sentOne {after : Connection (σ × List Receipt)}
    (statements : SentStatements c after) : SentOne c after := by
  obtain ⟨more, sent, same, statements⟩ := statements
  exact ⟨more, sent, same ▸ .execute statements⟩

theorem sentOne_begin : SentOne c (server.recording.begin c).2 := by
  by_cases busy : c.inTransaction = true
  · rw [begin, if_pos busy]
    exact sentStatements_refl.sentOne
  · rw [Bool.not_eq_true] at busy
    obtain ⟨sent, agreed⟩ := server.recording.of_begin busy
    refine ⟨[_], congrArg Prod.snd sent, ?_⟩
    rw [busy, agreed]
    exact .begin

theorem sentOne_finish {command : Command}
    (ends : ∀ succeeded, (Receipt.mk command succeeded).isEnd = true) :
    SentOne c (server.recording.finish command c).2 := by
  by_cases busy : c.inTransaction = true
  · obtain ⟨sent, ended⟩ := server.recording.of_finish busy
    refine ⟨[_], congrArg Prod.snd sent, ?_⟩
    rw [busy, ended]
    exact .finish (ends _)
  · rw [finish, if_neg busy]
    exact sentStatements_refl.sentOne

/-- An operation sends at most one command which begins or ends a transaction, and then nothing
else. -/
theorem sentOne_perform {operation : Operation} (held : operation ≠ .acquire) :
    SentOne c (server.recording.perform operation c).2 := by
  cases operation with
  | acquire => exact absurd rfl held
  | autoCommit on =>
      cases on
      · exact sentOne_begin
      · exact sentOne_finish fun _ => rfl
  | query sql values => exact (sentStatements_refl.execute values c).sentOne
  | update sql values => exact (sentStatements_refl.execute values c).sentOne
  | batch sql rows =>
      exact (executeAll_keeps SentStatements.execute rows sentStatements_refl).sentOne
  | commit => exact sentOne_finish fun _ => rfl
  | rollback => exact sentOne_finish fun _ => rfl
  | close => exact sentStatements_refl.sentOne

/-- However operations are called, the commands which they send follow the automaton. -/
theorem follows_performAll {operations : List Operation} (held : .acquire ∉ operations) :
    ∃ more, (server.recording.performAll operations c).server.2 = c.server.2 ++ more ∧
      Follows c.inTransaction more (server.recording.performAll operations c).inTransaction := by
  induction operations generalizing c with
  | nil => exact ⟨[], (List.append_nil _).symm, .nil⟩
  | cons operation operations inductionHypothesis =>
      rw [List.mem_cons, not_or] at held
      obtain ⟨first, sent, sends⟩ := server.sentOne_perform (c := c) (Ne.symm held.1)
      obtain ⟨rest, later, follows⟩ :=
        inductionHypothesis (c := (server.recording.perform operation c).2) held.2
      refine ⟨first ++ rest, ?_, sends.follows.append follows⟩
      rw [← List.append_assoc, ← sent, ← later]
      rfl

/-! ### The transaction of the server -/

namespace Transactional

variable {isOpen : σ → Bool}

theorem recording (transactional : server.Transactional isOpen) :
    server.recording.Transactional (isOpen ·.1) where
  begun state := transactional.begun state.1
  refused state := transactional.refused state.1
  committed state := transactional.committed state.1
  rolledBack state := transactional.rolledBack state.1
  executed sql types values state := transactional.executed sql types values state.1

variable {c : Connection σ}

theorem begin (transactional : server.Transactional isOpen)
    (same : isOpen c.server = c.inTransaction) :
    isOpen (server.begin c).2.server = (server.begin c).2.inTransaction := by
  by_cases busy : c.inTransaction = true
  · rwa [Server.begin, if_pos busy]
  · rw [Bool.not_eq_true] at busy
    obtain ⟨sent, agreed⟩ := server.of_begin busy
    rw [sent, agreed]
    cases answered : (server.send .begin c.server).1 with
    | ok response => exact transactional.begun c.server response answered
    | error error => exact transactional.refused c.server error answered (same.trans busy)

theorem finish {command : Command} (closes : ∀ state, isOpen (server.send command state).2 = false)
    (same : isOpen c.server = c.inTransaction) :
    isOpen (server.finish command c).2.server = false ∧
      (server.finish command c).2.inTransaction = false := by
  by_cases busy : c.inTransaction = true
  · obtain ⟨sent, ended⟩ : (server.finish command c).2.server = (server.send command c.server).2 ∧
        (server.finish command c).2.inTransaction = false := server.of_finish busy
    rw [sent]
    exact ⟨closes c.server, ended⟩
  · rw [Server.finish, if_neg busy]
    rw [Bool.not_eq_true] at busy
    exact ⟨same.trans busy, busy⟩

/-- Switching automatic commits on leaves no transaction open. -/
theorem switch_on (transactional : server.Transactional isOpen)
    (same : isOpen c.server = c.inTransaction) :
    isOpen (server.perform (.autoCommit true) c).2.server = false ∧
      (server.perform (.autoCommit true) c).2.inTransaction = false :=
  finish transactional.rolledBack same

theorem execute (transactional : server.Transactional isOpen) {sql : String}
    (values : List SqlValue) (c : Connection σ) (same : isOpen c.server = c.inTransaction) :
    isOpen (server.execute sql values c).2.server =
      (server.execute sql values c).2.inTransaction :=
  (transactional.executed _ _ _ c.server).trans same

/-- Every operation leaves a connection whose memory is right with its memory right. -/
theorem perform (transactional : server.Transactional isOpen) {operation : Operation}
    (held : operation ≠ .acquire) (same : isOpen c.server = c.inTransaction) :
    isOpen (server.perform operation c).2.server =
      (server.perform operation c).2.inTransaction := by
  cases operation with
  | acquire => exact absurd rfl held
  | autoCommit on =>
      cases on
      · exact transactional.begin same
      · obtain ⟨closed, ended⟩ := transactional.switch_on same
        exact closed.trans ended.symm
  | query sql values => exact transactional.execute values c same
  | update sql values => exact transactional.execute values c same
  | batch sql rows => exact executeAll_keeps transactional.execute rows same
  | commit =>
      obtain ⟨closed, ended⟩ := finish transactional.committed same
      exact closed.trans ended.symm
  | rollback =>
      obtain ⟨closed, ended⟩ := finish transactional.rolledBack same
      exact closed.trans ended.symm
  | close => exact same

theorem performAll (transactional : server.Transactional isOpen) {operations : List Operation}
    (held : .acquire ∉ operations) (same : isOpen c.server = c.inTransaction) :
    isOpen (server.performAll operations c).server =
      (server.performAll operations c).inTransaction := by
  induction operations generalizing c with
  | nil => exact same
  | cons operation operations inductionHypothesis =>
      rw [List.mem_cons, not_or] at held
      exact inductionHypothesis held.2 (transactional.perform (Ne.symm held.1) same)

end Transactional

/-! ## The protocol -/

/-- Over a fresh connection, whatever operations are called in whatever order, and whatever the
server answers: the connection remembers whether the last transaction which was begun was not
ended yet, a transaction is begun only while none is underway and ended only while one is, and so
transactions alternate.  If the server's transactions follow these commands, then the server
always has one open exactly if the connection remembers one, and none after automatic commits
were switched on, so that none outlives the release of the connection. -/
theorem transactions_alternate (server : Server σ) {c : Connection (σ × List Receipt)}
    (fresh : c.inTransaction = false) (unsent : c.server.2 = []) {operations : List Operation}
    (held : .acquire ∉ operations) :
    let after := server.recording.performAll operations c
    (after.inTransaction = true ↔ Unended after.server.2) ∧
    (∀ before receipt later, after.server.2 = before ++ receipt :: later →
      (receipt.command = .begin → ¬ Unended before) ∧
      (receipt.isEnd = true → Unended before)) ∧
    (∀ operation, operation ≠ .acquire → ∃ more,
      (server.recording.perform operation after).2.server.2 = after.server.2 ++ more ∧
      ∀ receipt ∈ more,
        (receipt.command = .begin → after.inTransaction = false) ∧
        (receipt.isEnd = true → after.inTransaction = true)) ∧
    (∀ before between later,
      after.server.2 = before ++ ⟨.begin, true⟩ :: (between ++ ⟨.begin, true⟩ :: later) →
      between.countP Receipt.isEnd = between.countP Receipt.isBegin + 1) ∧
    ∀ isOpen : σ → Bool, server.Transactional isOpen → isOpen c.server.1 = false →
      isOpen after.server.1 = after.inTransaction ∧
      isOpen (server.recording.perform (.autoCommit true) after).2.server.1 = false ∧
      isOpen (server.recording.performAll [.autoCommit true, .close] after).server.1 = false := by
  obtain ⟨sent, recorded, follows⟩ := server.follows_performAll (c := c) held
  rw [unsent, List.nil_append] at recorded
  rw [fresh] at follows
  intro after
  refine ⟨?_, ?_, ?_, ?_, ?_⟩
  · rw [recorded]
    exact follows.unended_iff.symm
  · rw [recorded]
    rintro before receipt later rfl
    obtain ⟨between, earlier, rest⟩ := follows.exists_of_append
    rw [earlier.unended_iff]
    refine ⟨fun begins => ?_, rest.busy_of_end⟩
    rw [rest.idle_of_begin begins]
    exact nofun
  · intro operation other
    obtain ⟨more, later, sends⟩ := server.sentOne_perform (c := after) other
    exact ⟨more, later, fun receipt member => sends.legal member⟩
  · rw [recorded]
    rintro before between later rfl
    obtain ⟨idle, -, rest⟩ := follows.exists_of_append
    cases rest with
    | begin others =>
        obtain ⟨ended, inside, next⟩ := others.exists_of_append
        rw [next.idle_of_begin rfl] at inside
        have counted := inside.countP_add
        rw [Bool.toNat_true, Bool.toNat_false] at counted
        omega
    | finish ends _ => cases ends
    | execute statement _ => cases statement
  · intro isOpen transactional closed
    have same := transactional.recording.performAll held (closed.trans fresh.symm)
    obtain ⟨closed, -⟩ := transactional.recording.switch_on same
    exact ⟨same, closed, closed⟩

/-- A server which never commits. -/
def uncommitting : Server Bool where
  send
    | .begin, _ => (.ok {}, true)
    | .commit, _ => (.error .serialize, false)
    | .rollback, _ => (.ok {}, false)
    | .statement .., isOpen => (.ok {}, isOpen)

theorem transactional_uncommitting : uncommitting.Transactional id where
  begun _ _ _ := rfl
  refused _ _ failed := nomatch failed
  committed _ := rfl
  rolledBack _ := rfl
  executed _ _ _ _ := rfl

/-- Although the commit fails, a transaction is begun after it, and ended in turn. -/
theorem alternate_uncommitting :
    let after := uncommitting.recording.performAll
      [.autoCommit false, .autoCommit false, .commit, .rollback, .autoCommit false]
      ⟨(false, []), {}, false⟩
    after.server.2 = [⟨.begin, true⟩, ⟨.commit, false⟩, ⟨.begin, true⟩] ∧
    [Receipt.mk .commit false].countP Receipt.isEnd = 1 ∧
    after.server.1 = after.inTransaction ∧
    (uncommitting.recording.perform (.autoCommit true) after).2.server.1 = false := by
  obtain ⟨-, -, -, once, open_iff⟩ :=
    transactions_alternate uncommitting (rfl : (⟨(false, []), {}, false⟩ :
      Connection (Bool × List Receipt)).inTransaction = false) rfl
      (by decide : Operation.acquire ∉
        [.autoCommit false, .autoCommit false, .commit, .rollback, .autoCommit false])
  obtain ⟨same, closed, -⟩ := open_iff id transactional_uncommitting rfl
  exact ⟨rfl, once [] [⟨.commit, false⟩] [] rfl, same, closed⟩

end Server

end NamedSql.Postgres
