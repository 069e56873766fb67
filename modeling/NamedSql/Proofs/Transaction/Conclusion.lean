import NamedSql.Proofs.Transaction.Standing

/-!
# How a transaction is settled

A run which has ended leaves a settled transaction: its lines are those of the
outputs which were recorded, and the notices follow from the outcome alone.
-/

namespace NamedSql

open Exchange (calls answers)

variable {statements : List (Except SharedError Statement)} {entries : List BoundEntry}
  {outputs : List Output}

/-! ## Lines and notices in the end -/

theorem flatten_mapIdx_singleton {α β : Type} (convert : Nat → α → β) (elements : List α) :
    (elements.mapIdx fun index element => [convert index element]).flatten =
      elements.mapIdx convert := by
  induction elements using List.reverseRecOn with
  | nil => rfl
  | append_singleton elements element inductionHypothesis =>
      simp [List.mapIdx_concat, inductionHypothesis]

/-- Every statement of a planned transaction is bound. -/
theorem error?_eq_none_of_planOf (planned : planOf statements = .ok entries) :
    ∀ statement ∈ statements, error? statement = none := by
  have none := error?_planOf statements
  rw [planned] at none
  exact List.findSome?_eq_none_iff.mp none.symm

theorem earlyNotices_of_planOf (planned : planOf statements = .ok entries) :
    earlyNotices statements = [] := by
  have bound := error?_eq_none_of_planOf planned
  clear planned
  induction statements using List.reverseRecOn with
  | nil => rfl
  | append_singleton statements statement inductionHypothesis =>
      have last := bound statement (by simp)
      have first := inductionHypothesis fun s member => bound s (by simp [member])
      rw [earlyNotices_concat, first]
      cases statement with
      | ok _ => rfl
      | error error => cases last

theorem statements_linesOf (statements : List (Except SharedError Statement))
    (outputs : List Output) : (linesOf statements outputs).map Line.statement = statements := by
  apply List.ext_getElem?
  intro index
  cases found : statements[index]? <;> simp [linesOf, found]

theorem told_linesOf (statements : List (Except SharedError Statement))
    (outputs : List Output) :
    (linesOf statements outputs).map Line.told = settledLines statements outputs := by
  apply List.ext_getElem?
  intro index
  cases found : statements[index]? <;> simp [linesOf, settledLines, Line.told, found]

theorem told_added (statements : List (Except SharedError Statement)) :
    (statements.map Line.added).map Line.told = settledLines statements [] := by
  apply List.ext_getElem?
  intro index
  cases found : statements[index]? with
  | none => simp [settledLines, found]
  | some statement =>
      cases statement <;> simp [settledLines, Line.added, Line.told, found, error?]

theorem linesOf_nil (planned : planOf statements = .ok entries) :
    linesOf statements [] = statements.map Line.added := by
  have bound := error?_eq_none_of_planOf planned
  apply List.ext_getElem?
  intro index
  cases found : statements[index]? with
  | none => simp [linesOf, found]
  | some statement =>
      have here := bound statement (List.mem_of_getElem? found)
      simp [linesOf, Line.added, found, here]

theorem lateNotices_failed (planned : planOf statements = .ok entries) (error : SharedError) :
    lateNotices .rolledBack (fun _ => .error error) (linesOf statements outputs) =
      failures statements error := by
  have bound := error?_eq_none_of_planOf planned
  simp only [failures, lateNotices]
  congr 1
  apply List.ext_getElem?
  intro index
  cases found : statements[index]? with
  | none => simp [linesOf, found]
  | some statement =>
      have here := bound statement (List.mem_of_getElem? found)
      simp [linesOf, Line.added, found, here]

theorem lateNotices_completed (length : outputs.length = statements.length) :
    lateNotices .committed Line.completed (linesOf statements outputs) = completions outputs := by
  rw [completions, ← flatten_mapIdx_singleton, lateNotices]
  congr 1
  apply List.ext_getElem?
  intro index
  by_cases inside : index < outputs.length
  · have within : index < statements.length := length ▸ inside
    simp [linesOf, Line.completed, inside, within]
  · have outside : ¬ index < statements.length := length ▸ inside
    simp [linesOf, inside, outside]

/-! ## Settling -/

namespace Ledger

variable {ledger : Ledger} {exchanges final : List Exchange} {callback : Option String}
  {run : Run} {outcome : Except SharedError Unit}

theorem statements_settle (ledger : Ledger) (outcome : Except SharedError Unit) :
    (ledger.settle outcome).statements = ledger.statements := by
  have same (line : Line) : line.told.statement = line.statement := by
    unfold Line.told
    split <;> rfl
  cases outcome <;> simp [Ledger.statements, settle, Function.comp_def, same]

/-- A run which has gone through a whole course settles its transaction. -/
theorem Underway.settled (underway : ledger.Underway exchanges entries outputs run)
    (registered : ledger.onFailed = callback) (course : Course entries)
    (answered : answers final = course.trace)
    (called : Exchange.calls final = course.trace.map (·.operation))
    (decides : course.Decides outcome) (recorded : outputs = course.outputs) :
    (ledger.settle outcome).Settled final callback outcome outputs := by
  have statements := ledger.statements_settle outcome
  have length : (ledger.settle outcome).lines.length = ledger.lines.length := by
    cases outcome <;> exact List.length_map _
  have concluded : Concluded ledger.statements final outcome outputs :=
    recorded ▸ .conducted underway.planned course answered called decides
  have lines : (ledger.settle outcome).lines = settledLines ledger.statements outputs := by
    rw [← told_linesOf, ← underway.lines]
    cases outcome <;> rfl
  refine ⟨by cases outcome <;> rfl, ?_, statements ▸ concluded, statements ▸ lines, ?_⟩
  · rw [length, underway.length]
    cases outcome <;> rfl
  · rw [statements]
    cases outcome with
    | ok _ =>
        have completed := lateNotices_completed concluded.length_outputs
        rw [← underway.lines] at completed
        simp only [settle, underway.notices, completed, finalNotices, List.nil_append]
    | error error =>
        have failed : lateNotices _ _ (linesOf ledger.statements outputs) = _ :=
          lateNotices_failed underway.planned error
        rw [← underway.lines] at failed
        simp only [settle, underway.notices, failed, finalNotices, registered,
          earlyNotices_of_planOf underway.planned]

/-- A transaction with a statement which is not bound is settled without a run. -/
theorem Gathering.settled {error : SharedError} (gathering : ledger.Gathering)
    (registered : ledger.onFailed = callback) (counted : ledger.lines.length = ledger.expected)
    (unplanned : planOf ledger.statements = .error error) :
    (({ ledger with gate := true, state := .executing } : Ledger).settle (.error error)).Settled
      [] callback (.error error) [] := by
  have statements := statements_settle
    { ledger with gate := true, state := .executing } (.error error)
  have lines : ledger.lines.map Line.told = settledLines ledger.statements [] := by
    rw [← told_added, ← gathering.lines]
  refine ⟨rfl, (List.length_map _).trans counted, ?_, statements ▸ lines, ?_⟩
  · rw [statements]
    have first := error?_planOf ledger.statements
    rw [unplanned] at first
    exact .unbound first.symm rfl
  · have told : failures ledger.statements error = _ :=
      congrArg (lateNotices .rolledBack fun _ => .error error) gathering.lines.symm
    rw [statements]
    change _ = earlyNotices ledger.statements ++ failures ledger.statements error ++ _
    rw [told, ← registered, ← gathering.notices]
    rfl

end Ledger

end NamedSql
