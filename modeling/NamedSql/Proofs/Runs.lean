import NamedSql.Proofs.Transaction.Calls
import Mathlib.Data.List.SplitBy

/-!
# Maximal runs of a plan

Statements join the last entry of a plan one by one, and are only ever compared with its
first statement.  As sharing a batch is symmetric and transitive, the entries are nevertheless
the maximal runs of statements which share a batch with one another, and there is no other
way to divide the statements into such runs.
-/

namespace NamedSql

section Runs

variable {α : Type} {sameBatch : α → α → Bool}

/-- The last statement of an entry. -/
def Entry.last (entry : Entry α) : α :=
  entry.statements.getLast (List.cons_ne_nil _ _)

theorem Entry.last_mem (entry : Entry α) : entry.last ∈ entry.statements :=
  List.getLast_mem _

theorem Entry.statements_injective : Function.Injective (Entry.statements (α := α)) := by
  rintro ⟨first, others⟩ ⟨otherFirst, otherOthers⟩ same
  cases same
  rfl

/-! ## One statement after another -/

/-- Put a further statement into the last entry, if it shares a batch with the first statement
of that entry, and else into an entry of its own. -/
def join (sameBatch : α → α → Bool) (entries : List (Entry α)) (next : α) : List (Entry α) :=
  match entries with
  | [] => [⟨next, []⟩]
  | [last] =>
    if sameBatch last.first next then [⟨last.first, last.others ++ [next]⟩]
    else [last, ⟨next, []⟩]
  | entry :: rest => entry :: join sameBatch rest next

theorem join_cons (entry : Entry α) {rest : List (Entry α)} (nonempty : rest ≠ []) (next : α) :
    join sameBatch (entry :: rest) next = entry :: join sameBatch rest next := by
  cases rest with
  | nil => exact absurd rfl nonempty
  | cons second rest => rfl

theorem plan_ne_nil {statements : List α} (nonempty : statements ≠ []) :
    plan sameBatch statements ≠ [] := by
  cases statements with
  | nil => exact absurd rfl nonempty
  | cons first rest =>
      rw [plan]
      exact List.cons_ne_nil _ _

/-- A further statement is put into the last entry of the plan, or into a new one. -/
theorem plan_concat (statements : List α) (next : α) :
    plan sameBatch (statements ++ [next]) = join sameBatch (plan sameBatch statements) next := by
  fun_induction plan sameBatch statements with
  | case1 => simp [plan, join]
  | case2 first rest _ inductionHypothesis =>
      rw [List.cons_append, plan, List.takeWhile_append, List.dropWhile_append]
      by_cases whole : rest.dropWhile (sameBatch first) = []
      · have taken : rest.takeWhile (sameBatch first) = rest := by
          simpa [whole] using rest.takeWhile_append_dropWhile (p := sameBatch first)
        rw [whole, taken, if_pos rfl, List.isEmpty_nil, if_pos rfl, plan, join]
        by_cases shared : sameBatch first next = true
        · simp [shared, plan]
        · simp [shared, plan]
      · have shorter : (rest.takeWhile (sameBatch first)).length ≠ rest.length := by
          intro same
          have total := congrArg List.length (rest.takeWhile_append_dropWhile (p := sameBatch first))
          rw [List.length_append, same] at total
          exact whole (List.length_eq_zero_iff.mp (by omega))
        rw [if_neg shorter, if_neg (mt List.isEmpty_iff.mp whole), inductionHypothesis,
          join_cons _ (plan_ne_nil whole)]

/-- The plan comes about one statement after another. -/
theorem plan_eq_foldl (statements : List α) :
    plan sameBatch statements = statements.foldl (join sameBatch) [] := by
  induction statements using List.reverseRecOn with
  | nil => rw [plan, List.foldl_nil]
  | append_singleton statements next inductionHypothesis =>
      rw [plan_concat, inductionHypothesis, List.foldl_concat]

/-! ## The one way to divide statements into maximal runs -/

/-- Entries into which statements are divided, each a run which cannot be made any longer. -/
structure MaximalRuns (shares : α → α → Prop) (statements : List α) (entries : List (Entry α)) :
    Prop where
  statements : entries.flatMap Entry.statements = statements
  shared : ∀ entry ∈ entries, entry.statements.Pairwise shares
  maximal : entries.IsChain fun entry next => ¬shares entry.last next.first

/-- Maximal runs are determined by the relation between neighbours. -/
theorem MaximalRuns.splitBy_eq {statements : List α} {entries : List (Entry α)}
    (runs : MaximalRuns (sameBatch · · = true) statements entries) :
    statements.splitBy sameBatch = entries.map Entry.statements := by
  rw [List.splitBy_eq_iff]
  constructor
  · rw [← runs.statements, List.flatMap_def]
  · refine ⟨?_, ?_, ?_⟩
    · intro empty
      obtain ⟨entry, _, nothing⟩ := List.mem_map.mp empty
      cases nothing
    · intro run among
      obtain ⟨entry, member, rfl⟩ := List.mem_map.mp among
      exact (runs.shared entry member).isChain
    · rw [List.isChain_map]
      apply runs.maximal.imp
      intro entry next ends
      exact ⟨List.cons_ne_nil _ _, List.cons_ne_nil _ _, Bool.not_eq_true _ ▸ ends⟩

section Sharing

variable (symmetric : ∀ ⦃first second⦄, sameBatch first second = true →
    sameBatch second first = true)
  (transitive : ∀ ⦃first second third⦄, sameBatch first second = true →
    sameBatch second third = true → sameBatch first third = true)

include symmetric transitive in
/-- All statements of an entry share a batch, as each shares one with the first. -/
theorem pairwise_plan (statements : List α) : ∀ entry ∈ plan sameBatch statements,
    entry.statements.Pairwise (sameBatch · · = true) := by
  intro entry member
  have withFirst := sameBatch_of_plan sameBatch statements entry member
  rw [Entry.statements, List.pairwise_cons]
  constructor
  · exact withFirst
  · apply List.pairwise_of_forall_mem_list
    intro one among other amongToo
    exact transitive (symmetric (withFirst one among)) (withFirst other amongToo)

theorem head?_plan (statements : List α) :
    ∀ entry ∈ (plan sameBatch statements).head?, entry.first ∈ statements.head? := by
  cases statements with
  | nil =>
      rw [plan]
      intro entry absent
      cases absent
  | cons first rest =>
      rw [plan]
      rintro _ ⟨⟩
      rfl

include transitive in
/-- What follows an entry shares no batch with its last statement, as it shares none with the
first. -/
theorem isChain_plan (statements : List α) : (plan sameBatch statements).IsChain
    fun entry next => ¬sameBatch entry.last next.first = true := by
  fun_induction plan sameBatch statements with
  | case1 => exact .nil
  | case2 first rest _ inductionHypothesis =>
      rw [List.isChain_cons]
      refine ⟨?_, inductionHypothesis⟩
      intro next following shared
      have stops := List.head?_dropWhile_not (sameBatch first) rest
      rw [Option.mem_def.mp (head?_plan _ next following)] at stops
      apply Bool.false_ne_true
      rw [← stops]
      rcases List.mem_cons.mp (Entry.last_mem ⟨first, rest.takeWhile (sameBatch first)⟩) with
        same | later
      · rw [same] at shared
        exact shared
      · exact transitive (List.mem_takeWhile_imp later) shared

include symmetric transitive in
/-- The plan consists of the maximal runs, and nothing else does. -/
theorem plan_eq_iff_of_sharing (statements : List α) (entries : List (Entry α)) :
    plan sameBatch statements = entries ↔
      MaximalRuns (sameBatch · · = true) statements entries := by
  have planned : MaximalRuns (sameBatch · · = true) statements (plan sameBatch statements) :=
    ⟨plan_statements sameBatch statements, pairwise_plan symmetric transitive statements,
      isChain_plan transitive statements⟩
  constructor
  · rintro rfl
    exact planned
  · intro runs
    apply Entry.statements_injective.list_map
    rw [← planned.splitBy_eq, ← runs.splitBy_eq]

end Sharing

end Runs

/-! ## The runs of a transaction -/

/-- Two statements with their numbers share a batch: both are bound updates, with the same text
and the same strategies. -/
def SharesBatch (first second : Nat × Except SharedError Statement) : Prop :=
  ∃ one other, first.2 = .ok one ∧ second.2 = .ok other ∧
    one.kind = .update ∧ other.kind = .update ∧ one.query.sql = other.query.sql ∧
    one.query.binders.map (·.strategy) = other.query.binders.map (·.strategy)

theorem sameBatchBound_iff (first second : Nat × Except SharedError Statement) :
    sameBatchBound first second = true ↔ SharesBatch first second := by
  rcases first with ⟨_, _ | first⟩ <;> rcases second with ⟨_, _ | second⟩ <;>
    simp [sameBatchBound, SharesBatch, Statement.sameBatch_iff, Query.sameShape]

theorem SharesBatch.symm {first second : Nat × Except SharedError Statement}
    (shared : SharesBatch first second) : SharesBatch second first := by
  obtain ⟨one, other, bound, boundToo, update, updateToo, sql, strategies⟩ := shared
  exact ⟨other, one, boundToo, bound, updateToo, update, sql.symm, strategies.symm⟩

theorem SharesBatch.trans {first second third : Nat × Except SharedError Statement}
    (shared : SharesBatch first second) (sharedToo : SharesBatch second third) :
    SharesBatch first third := by
  obtain ⟨one, other, bound, boundToo, update, -, sql, strategies⟩ := shared
  obtain ⟨same, another, boundSame, boundLast, -, updateLast, sqlToo, strategiesToo⟩ := sharedToo
  cases Except.ok.inj (boundToo.symm.trans boundSame)
  exact ⟨one, another, bound, boundLast, update, updateLast, sql.trans sqlToo,
    strategies.trans strategiesToo⟩

/-- The plan of a transaction comes about one statement after another, each being compared with
the first one of the last entry only.  It consists of the maximal runs of statements which share
a batch with one another: they are all the statements in order, and neighbouring entries share
no batch.  No other entries do.  An entry of one statement is executed by itself, and one of
several statements as a batch. -/
theorem plan_eq_iff_maximalRuns (members : List Member) :
    plan sameBatchBound (numberedStatements members) =
        (numberedStatements members).foldl (join sameBatchBound) [] ∧
      ∀ entries, plan sameBatchBound (numberedStatements members) = entries ↔
        MaximalRuns SharesBatch (numberedStatements members) entries := by
  refine ⟨plan_eq_foldl _, fun entries => ?_⟩
  have sharing : (sameBatchBound · · = true) = SharesBatch := by
    funext first second
    exact propext (sameBatchBound_iff first second)
  rw [← sharing]
  apply plan_eq_iff_of_sharing
  · intro first second shared
    rw [sameBatchBound_iff] at shared ⊢
    exact shared.symm
  · intro first second third shared sharedToo
    rw [sameBatchBound_iff] at shared sharedToo ⊢
    exact shared.trans sharedToo

end NamedSql
