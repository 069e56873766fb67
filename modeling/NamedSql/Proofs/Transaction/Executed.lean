import NamedSql.Proofs.Transaction.Standing

/-!
# Executed statements

The statements which were executed are the first ones, as many as the first entries of the plan
hold together: outputs are recorded entry by entry, and an entry which fails records none.
-/

namespace NamedSql

/-! ## Whole entries -/

/-- A count of statements which the first entries hold together. -/
def Fills {α : Type} (entries : List (Entry α)) (count : Nat) : Prop :=
  ∃ done rest, entries = done ++ rest ∧ count = (done.flatMap Entry.statements).length

theorem Fills.none {α : Type} (entries : List (Entry α)) : Fills entries 0 :=
  ⟨[], entries, rfl, rfl⟩

theorem Fills.map {α β : Type} {entries : List (Entry α)} {count : Nat}
    (fills : Fills entries count) (convert : α → β) :
    Fills (entries.map (Entry.map convert)) count := by
  obtain ⟨done, rest, rfl, rfl⟩ := fills
  refine ⟨done.map (Entry.map convert), rest.map (Entry.map convert), List.map_append, ?_⟩
  simp [List.flatMap_map, List.length_flatMap]

section Entries

variable {entries rest : List BoundEntry} {log : List Answered} {outputs : List Output}

/-- A course returns outputs for whole entries, up to the first which fails. -/
theorem Course.fills (course : Course entries) : Fills entries course.outputs.length := by
  rw [Course.outputs]
  cases course.start with
  | error error => exact Fills.none entries
  | ok _ =>
      let succeeds (attempt : Attempt) : Bool := attempt.failure.isNone
      refine ⟨(course.attempts.takeWhile succeeds).map Attempt.entry,
        (course.attempts.dropWhile succeeds).map Attempt.entry, ?_, ?_⟩
      · rw [← List.map_append, List.takeWhile_append_dropWhile, course.covers]
      · apply Attempt.length_flatMap_outputs
        intro attempt among
        have succeeded : succeeds attempt = true := List.mem_takeWhile_imp among
        exact Option.isNone_iff_eq_none.mp succeeded

theorem Remaining.fills (remaining : Remaining entries rest log outputs) :
    Fills entries outputs.length := by
  obtain ⟨done, all, rfl, -, rfl⟩ := remaining
  exact ⟨done.map Attempt.entry, rest, rfl, Attempt.length_flatMap_outputs all⟩

/-- Whichever phase a run has reached, outputs were recorded for whole entries. -/
theorem Phase.Reached.fills {phase : Phase} (reached : phase.Reached entries log outputs) :
    Fills entries outputs.length := by
  have ofWork {outcome : Except SharedError Unit} {cleanup : Course entries → List Answered}
      (worked : Worked entries log outputs outcome cleanup) : Fills entries outputs.length := by
    obtain ⟨course, -, -, -, rfl⟩ := worked
    exact course.fills
  cases phase with
  | acquire planned =>
      obtain ⟨-, -, rfl⟩ := reached
      exact Fills.none entries
  | start planned =>
      obtain ⟨-, -, rfl⟩ := reached
      exact Fills.none entries
  | execute entry rest => exact Remaining.fills reached
  | commit => exact Remaining.fills reached
  | rollback cause => exact ofWork reached
  | restore outcome => exact ofWork reached
  | close outcome => exact ofWork reached

end Entries

/-! ## Plans -/

section Statements

variable {statements : List (Except SharedError Statement)} {entries : List BoundEntry}
  {exchanges : List Exchange} {outcome : Except SharedError Unit} {outputs : List Output}

/-- The entries of a run are those of the plan. -/
theorem Fills.of_planOf {count : Nat} (planned : planOf statements = .ok entries)
    (fills : Fills entries count) :
    Fills (plan sameBatchBound (statements.mapIdx Prod.mk)) count := by
  rw [(planOf_eq_ok_iff statements entries).mp planned]
  exact fills.map asBound

theorem Concluded.fills (concluded : Concluded statements exchanges outcome outputs) :
    Fills (plan sameBatchBound (statements.mapIdx Prod.mk)) outputs.length := by
  cases concluded with
  | unbound first silent => exact Fills.none _
  | conducted planned course answered called decides => exact course.fills.of_planOf planned

end Statements

/-! ## Lines -/

namespace Ledger

variable {ledger : Ledger} {exchanges : List Exchange} {callback : Option String}
  {current : Option Run}

/-- The statements which were executed are the first ones, as many as given. -/
def Executes (ledger : Ledger) (count : Nat) : Prop :=
  ∀ id line, ledger.lines[id]? = some line → (line.executed = true ↔ id < count)

/-- Wherever a transaction stands, the first entries of its plan were executed as a whole: none of
them while it is pending, and all of them once it is committed. -/
theorem Standing.executes (standing : Standing ledger exchanges callback current) :
    ∃ count, Fills (plan sameBatchBound (ledger.statements.mapIdx Prod.mk)) count ∧
      ledger.Executes count ∧ (ledger.state = .pending → count = 0) ∧
      (ledger.state = .committed → count = ledger.lines.length) := by
  have length : ledger.statements.length = ledger.lines.length := List.length_map _
  cases standing with
  | gathering gathering silent registered =>
      refine ⟨0, Fills.none _, ?_, fun _ => rfl, ?_⟩
      · intro id line found
        rw [gathering.lines, List.getElem?_map, Option.map_eq_some_iff] at found
        obtain ⟨statement, -, rfl⟩ := found
        simp [Line.added]
      · intro committed
        cases gathering.state.symm.trans committed
  | @underway entries outputs run underway registered =>
      refine ⟨outputs.length, underway.reached.fills.of_planOf underway.planned, ?_, ?_, ?_⟩
      · intro id line found
        rw [underway.lines, linesOf, List.getElem?_mapIdx, Option.map_eq_some_iff] at found
        obtain ⟨statement, -, rfl⟩ := found
        simp
      · intro pending
        cases underway.state.symm.trans pending
      · intro committed
        cases underway.state.symm.trans committed
  | @settled outcome outputs settled =>
      refine ⟨outputs.length, settled.concluded.fills, ?_, ?_, ?_⟩
      · intro id line found
        rw [settled.lines, settledLines, List.getElem?_mapIdx, Option.map_eq_some_iff] at found
        obtain ⟨statement, -, rfl⟩ := found
        simp
      · intro pending
        exact absurd (settled.state.symm.trans pending) (finalState_ne_pending outcome)
      · intro committed
        cases outcome with
        | error error => cases settled.state.symm.trans committed
        | ok _ => exact settled.concluded.length_outputs.trans length

end Ledger

end NamedSql
