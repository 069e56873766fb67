import NamedSql.Proofs.Transaction.Ledger
import Mathlib.Data.List.Induction

/-!
# How the ledger changes

Adding a statement adds a line, recording outputs fills lines in order, and
settling tells every sink which was not told anything before.
-/

namespace NamedSql

theorem modify_length_append {α : Type} (change : α → α) (before : List α) (element : α)
    (after : List α) :
    (before ++ element :: after).modify before.length change =
      before ++ change element :: after := by
  induction before with
  | nil => rfl
  | cons first before inductionHypothesis => simp [inductionHypothesis]

/-- The lines of a transaction in progress: the first statements have returned the
given outputs, and no sink was told anything. -/
def linesOf (statements : List (Except SharedError Statement)) (outputs : List Output) :
    List Line :=
  statements.mapIdx fun id statement => ⟨statement, false, outputs[id]?, outputs[id]?.isSome⟩

/-- The next output is recorded for the first statement which has none. -/
theorem linesOf_concat (statements : List (Except SharedError Statement))
    (outputs : List Output) (output : Output) :
    linesOf statements (outputs ++ [output]) =
      (linesOf statements outputs).modify outputs.length (Line.recorded output) := by
  apply List.ext_getElem?
  intro index
  simp only [linesOf, List.getElem?_mapIdx, List.getElem?_modify]
  cases statements[index]? with
  | none => simp
  | some statement =>
      by_cases here : outputs.length = index
      · subst here
        simp [Line.recorded]
      · have same : (outputs ++ [output])[index]? = outputs[index]? := by
          rcases Nat.lt_or_gt_of_ne here with later | earlier
          · rw [List.getElem?_eq_none (by simp; omega), List.getElem?_eq_none (by omega)]
          · rw [List.getElem?_append_left earlier]
        simp [here, same]

namespace Transaction

/-! ## Telling sinks -/

theorem ledger_notify {t : Transaction} {id : Nat} {member : Member}
    (found : t.members[id]? = some member) (outcome : Line → Outcome) :
    (t.notify id fun member => outcome member.line).ledger =
      { t.ledger with
        lines := t.ledger.lines.modify id Line.told
        notices := t.ledger.notices ++
          if member.notified then []
          else [.notified id t.ledger.state (outcome member.line)] } := by
  have lines (change : Member → Member) (same : (change member).line = member.line.told) :
      (t.members.modify id change).map Member.line =
        (t.members.map Member.line).modify id Line.told :=
    map_modify fun other here => by rwa [Option.some.inj (here.symm.trans found)]
  cases notified : member.notified with
  | true =>
      have unchanged := lines (fun member => member) (by simp [Line.told, Member.line, notified])
      have same : t.members.modify id (fun member => member) = t.members := List.modify_id id _
      simp [notify, found, notified, ledger, ← unchanged, same]
  | false =>
      have changed (sink : Sink) := lines
        (fun member => { member with sink := sink, notified := true, output := none })
        (by simp [Line.told, Member.line, notified])
      simp only [notify, found, notified, Bool.false_eq_true, if_false]
      split
      · simp [ledger, note, notices, modifyMember, changed, Event.isNotice]
      · rw [ledger_log]
        simp [ledger, note, notices, modifyMember, changed, Event.isNotice]

/-- After the sinks of the first statements were told. -/
theorem ledger_notifyFirst {t : Transaction} (outcome : Line → Outcome) (before after : List Line)
    (lines : t.ledger.lines = before ++ after) :
    ((List.range before.length).foldl (fun t id => t.notify id fun member => outcome member.line)
        t).ledger =
      { t.ledger with
        lines := before.map Line.told ++ after
        notices := t.ledger.notices ++ lateNotices t.ledger.state outcome before } := by
  induction before using List.reverseRecOn generalizing after with
  | nil => simp [lateNotices, ← lines, ledger]
  | append_singleton before line inductionHypothesis =>
      have earlier := inductionHypothesis (line :: after) (by simpa using lines)
      rw [List.length_append, List.length_singleton, List.range_succ, List.foldl_append,
        List.foldl_cons, List.foldl_nil]
      generalize (List.range before.length).foldl
        (fun t id => t.notify id fun member => outcome member.line) t = s at earlier ⊢
      have earlierLines : s.members.map Member.line = before.map Line.told ++ line :: after :=
        congrArg Ledger.lines earlier
      have here : (s.members.map Member.line)[before.length]? = some line := by
        simp [earlierLines]
      obtain ⟨member, found, rfl⟩ := List.getElem?_map .. ▸ here |> Option.map_eq_some_iff.mp
      have told := modify_length_append Line.told (before.map Line.told) member.line after
      rw [List.length_map] at told
      rw [ledger_notify found outcome, earlier, lateNotices_concat]
      simp [told, show member.line.notified = member.notified from rfl]

theorem ledger_notifyAll (t : Transaction) (outcome : Line → Outcome) :
    (t.notifyAll fun member => outcome member.line).ledger =
      { t.ledger with
        lines := t.ledger.lines.map Line.told
        notices := t.ledger.notices ++
          lateNotices t.ledger.state outcome t.ledger.lines } := by
  have all := ledger_notifyFirst outcome t.ledger.lines [] (List.append_nil _).symm
  rw [List.append_nil] at all
  have length : t.ledger.lines.length = t.members.length := List.length_map _
  rw [notifyAll, ← length, all]

theorem ledger_callOnFailed (t : Transaction) (error : SharedError) :
    (t.callOnFailed error).ledger =
      { t.ledger with
        onFailed := none
        notices := t.ledger.notices ++
          t.ledger.onFailed.toList.map (Event.called · t.ledger.state error) } := by
  unfold callOnFailed
  cases registered : t.onFailed with
  | none => simp [ledger, registered]
  | some callback => simp [note, ledger, notices, registered, Event.isNotice]

theorem ledger_settle (t : Transaction) (outcome : Except SharedError Unit) :
    (t.settle outcome).ledger = t.ledger.settle outcome := by
  cases outcome with
  | ok _ => exact ledger_notifyAll { t with state := .committed } Line.completed
  | error error =>
      have failed : ({ t.log .transactionFailed with gate := false, state := .rolledBack } :
          Transaction).ledger = { t.ledger with gate := false, state := .rolledBack } := by
        rw [← ledger_log t .transactionFailed]
        rfl
      rw [settle, ledger_callOnFailed, ledger_notifyAll _ fun _ => .error error, failed]
      rfl

/-! ## Adding statements -/

/-- A statement as it is added: an error gets its identity. -/
def identified (t : Transaction) (statement : Except Error Statement) :
    Except SharedError Statement :=
  statement.mapError (⟨t.errors, ·⟩)

theorem mapError_identified (t : Transaction) (statement : Except Error Statement) :
    (t.identified statement).mapError SharedError.error = statement := by
  cases statement <;> rfl

/-- Register a statement before its sink is told anything. -/
def enroll (statement : Except SharedError Statement) (sink : Sink) (t : Transaction) :
    Transaction :=
  { t with
    members := t.members ++ [{ statement := statement, sink := sink }]
    awaiting := t.awaiting ++ [t.members.length] }

theorem ledger_enroll (statement : Except SharedError Statement) (sink : Sink)
    (t : Transaction) :
    (t.enroll statement sink).ledger =
      { t.ledger with lines := t.ledger.lines ++ [⟨statement, false, none, false⟩] } := by
  simp [enroll, ledger, Member.line, notices]

theorem add_of_not_pending {t : Transaction} (started : t.state ≠ .pending)
    (statement : Except Error Statement) (sink : Sink) :
    t.add statement sink = .error (.notPending t.state) := by
  simp [add, started]

theorem add_ok {t : Transaction} (pending : t.state = .pending) (statement : Statement)
    (sink : Sink) :
    t.add (.ok statement) sink = .ok (t.members.length, t.enroll (.ok statement) sink) := by
  rw [add, if_neg (not_not_intro pending)]
  rfl

theorem add_error {t : Transaction} (pending : t.state = .pending) (error : Error)
    (sink : Sink) :
    t.add (.error error) sink = .ok (t.members.length,
      (((t.share error).2.enroll (.error (t.share error).1) sink).log
        (.failedBeforeExecution t.members.length)).notify t.members.length
          fun _ => .error (t.share error).1) := by
  rw [add, if_neg (not_not_intro pending)]
  rfl

/-- A statement is added only while the transaction is pending, and gets the next number. -/
theorem pending_of_add {t after : Transaction} {statement : Except Error Statement} {sink : Sink}
    {id : Nat} (added : t.add statement sink = .ok (id, after)) :
    t.state = .pending ∧ id = t.members.length := by
  by_cases pending : t.state = .pending
  · refine ⟨pending, ?_⟩
    cases statement with
    | ok statement =>
        rw [add_ok pending] at added
        cases added
        rfl
    | error error =>
        rw [add_error pending] at added
        cases added
        rfl
  · rw [add_of_not_pending pending] at added
    cases added

/-- Adding a statement to a pending transaction succeeds and adds its line. -/
theorem add_of_pending {t : Transaction} (pending : t.state = .pending)
    (statement : Except Error Statement) (sink : Sink) :
    ∃ after, t.add statement sink = .ok (t.members.length, after) ∧
      after.ledger = t.ledger.add (t.identified statement) := by
  have length : t.ledger.lines.length = t.members.length := List.length_map _
  cases statement with
  | ok statement =>
      refine ⟨_, add_ok pending statement sink, ?_⟩
      rw [ledger_enroll]
      simp [Ledger.add, Line.added, earlyNotice, identified, error?, Except.mapError]
  | error error =>
      refine ⟨_, add_error pending error sink, ?_⟩
      have found : (((t.share error).2.enroll (.error (t.share error).1) sink).log
          (.failedBeforeExecution t.members.length)).members[t.members.length]? =
            some { statement := .error (t.share error).1, sink := sink } :=
        List.getElem?_concat_length
      have told := modify_length_append Line.told t.ledger.lines
        ⟨.error (t.share error).1, false, none, false⟩ []
      rw [length] at told
      rw [ledger_notify found fun _ => .error (t.share error).1, ledger_log, ledger_enroll,
        ledger_share]
      simp only [told]
      simp [Ledger.add, Line.added, Line.told, earlyNotice, identified, error?, Except.mapError,
        share, ledger, pending]

/-! ## Recording outputs -/

theorem ledger_record (t : Transaction) (id : Nat) (output : Output) :
    (t.modifyMember id (Member.record output)).ledger =
      { t.ledger with lines := t.ledger.lines.modify id (Line.recorded output) } := by
  have lines : (t.members.modify id (Member.record output)).map Member.line =
      (t.members.map Member.line).modify id (Line.recorded output) :=
    map_modify fun _ _ => rfl
  simp only [modifyMember, ledger, lines]
  rfl

theorem ledger_recordEach (executed : List (Nat × Statement)) {t : Transaction}
    {statements : List (Except SharedError Statement)} {outputs results : List Output}
    (lines : t.ledger.lines = linesOf statements outputs)
    (numbers : executed.map Prod.fst = List.range' outputs.length executed.length)
    (length : results.length = executed.length) :
    ((executed.zip results).foldl
        (fun t executed => t.modifyMember executed.1.1 (Member.record executed.2)) t).ledger =
      { t.ledger with lines := linesOf statements (outputs ++ results) } := by
  induction executed generalizing t outputs results with
  | nil =>
      rw [List.length_nil, List.length_eq_zero_iff] at length
      simp [length, ← lines]
  | cons first executed inductionHypothesis =>
      cases results with
      | nil => cases length
      | cons result results =>
          rw [List.map_cons, List.length_cons, List.range'_succ, List.cons.injEq] at numbers
          have recorded : (t.modifyMember first.1 (Member.record result)).ledger =
              { t.ledger with lines := linesOf statements (outputs ++ [result]) } := by
            rw [linesOf_concat, ← lines, ← numbers.1]
            exact ledger_record t first.1 result
          have rest := inductionHypothesis (congrArg Ledger.lines recorded)
            (by rw [List.length_append]; exact numbers.2) (Nat.succ.inj length)
          rw [List.zip_cons_cons, List.foldl_cons, rest, recorded]
          simp

/-- The outputs of an entry are recorded if its statements are the next ones. -/
theorem ledger_recordEntry {t : Transaction} {entry : BoundEntry}
    {statements : List (Except SharedError Statement)} {outputs results : List Output}
    (lines : t.ledger.lines = linesOf statements outputs)
    (numbers : entry.statements.map Prod.fst =
      List.range' outputs.length entry.statements.length)
    (length : results.length = entry.statements.length) :
    (t.record entry results).ledger =
      { t.ledger with lines := linesOf statements (outputs ++ results) } :=
  ledger_recordEach entry.statements lines numbers length

end Transaction

end NamedSql
