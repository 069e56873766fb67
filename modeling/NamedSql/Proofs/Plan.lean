import NamedSql.Transaction.Member
import Mathlib.Data.List.TakeWhile

/-!
# The statements of a plan

A plan contains its statements once each and in order.  The plan of a
transaction's members exists exactly if all of them are bound; otherwise the
first one which is not bound is its error.
-/

namespace NamedSql

section Plan

variable {α β ε : Type}

/-- Dividing statements into entries loses none and keeps their order. -/
theorem plan_statements (sameBatch : α → α → Bool) (statements : List α) :
    (plan sameBatch statements).flatMap Entry.statements = statements := by
  fun_induction plan sameBatch statements with
  | case1 => rfl
  | case2 first rest _ inductionHypothesis =>
      rw [List.flatMap_cons, inductionHypothesis]
      simp [Entry.statements, List.takeWhile_append_dropWhile]

/-- The statements of an entry may all share a batch with its first one. -/
theorem sameBatch_of_plan (sameBatch : α → α → Bool) (statements : List α) :
    ∀ entry ∈ plan sameBatch statements, ∀ other ∈ entry.others,
      sameBatch entry.first other = true := by
  fun_induction plan sameBatch statements with
  | case1 => exact fun _ member => nomatch member
  | case2 first rest _ inductionHypothesis =>
      intro entry member
      rcases List.mem_cons.mp member with rfl | later
      · exact fun other taken => List.mem_takeWhile_imp taken
      · exact inductionHypothesis entry later

/-- Convert every statement of an entry by a total function. -/
def Entry.map (convert : α → β) (entry : Entry α) : Entry β :=
  ⟨convert entry.first, entry.others.map convert⟩

@[simp]
theorem Entry.statements_map (convert : α → β) (entry : Entry α) :
    (entry.map convert).statements = entry.statements.map convert :=
  rfl

/-- The error of a result, if it is one. -/
def error? : Except ε α → Option ε
  | .ok _ => none
  | .error error => some error

/-- Searching entry by entry is searching their statements. -/
theorem findSome?_statements (search : α → Option β) (entries : List (Entry α)) :
    (entries.findSome? fun entry => entry.statements.findSome? search) =
      (entries.flatMap Entry.statements).findSome? search := by
  induction entries with
  | nil => rfl
  | cons entry entries inductionHypothesis =>
      rw [List.findSome?_cons, List.flatMap_cons, List.findSome?_append, inductionHypothesis]
      cases entry.statements.findSome? search <;> rfl

/-! ## Conversions which may fail -/

theorem error?_mapM (convert : α → Except ε β) (statements : List α) :
    error? (statements.mapM convert) = statements.findSome? fun s => error? (convert s) := by
  induction statements with
  | nil => rfl
  | cons first rest inductionHypothesis =>
      rw [List.mapM_cons, List.findSome?_cons, ← inductionHypothesis]
      cases convert first with
      | error error => rfl
      | ok _ => cases rest.mapM convert <;> rfl

theorem Entry.error?_mapM (convert : α → Except ε β) (entry : Entry α) :
    error? (entry.mapM convert) = entry.statements.findSome? fun s => error? (convert s) := by
  rcases entry with ⟨first, others⟩
  rw [Entry.statements, List.findSome?_cons, ← NamedSql.error?_mapM, Entry.mapM]
  cases convert first with
  | error error => rfl
  | ok _ => cases others.mapM convert <;> rfl

/-- A conversion which inverts an embedding, applied to a whole list. -/
theorem mapM_eq_ok_iff {convert : α → Except ε β} {embed : β → α}
    (inverse : ∀ source target, convert source = .ok target ↔ source = embed target)
    (sources : List α) (targets : List β) :
    sources.mapM convert = .ok targets ↔ sources = targets.map embed := by
  induction sources generalizing targets with
  | nil => cases targets <;> simp [pure, Except.pure]
  | cons source sources inductionHypothesis =>
      rw [List.mapM_cons]
      cases converted : convert source with
      | error error =>
          have unequal : ∀ target, source ≠ embed target := fun target equal => by
            rw [(inverse source target).mpr equal] at converted
            cases converted
          cases targets <;> simp [bind, Except.bind, unequal]
      | ok target =>
          obtain rfl := (inverse source target).mp converted
          have injective : ∀ other, embed target = embed other ↔ target = other :=
            fun other => by rw [← inverse, converted, Except.ok.injEq]
          cases rest : sources.mapM convert with
          | error error =>
              cases targets <;> simp [bind, Except.bind, ← inductionHypothesis, rest]
          | ok _ =>
              cases targets <;>
                simp [bind, Except.bind, pure, Except.pure, ← inductionHypothesis, rest, injective]

theorem Entry.mapM_eq_ok_iff {convert : α → Except ε β} {embed : β → α}
    (inverse : ∀ source target, convert source = .ok target ↔ source = embed target)
    (source : Entry α) (target : Entry β) :
    source.mapM convert = .ok target ↔ source = target.map embed := by
  rcases source with ⟨first, others⟩
  rcases target with ⟨targetFirst, targetOthers⟩
  have rest := NamedSql.mapM_eq_ok_iff inverse others targetOthers
  simp only [Entry.mapM, Entry.map, Entry.mk.injEq, ← inverse first, ← rest]
  cases convert first with
  | error error => simp [bind, Except.bind]
  | ok _ => cases others.mapM convert <;> simp [bind, Except.bind]

end Plan

/-! ## The plan of a transaction -/

/-- A bound statement with its number, as one which may be bound or not. -/
def asBound (statement : Nat × Statement) : Nat × Except SharedError Statement :=
  (statement.1, .ok statement.2)

theorem boundStatement_eq_ok_iff (source : Nat × Except SharedError Statement)
    (target : Nat × Statement) :
    boundStatement source = .ok target ↔ source = asBound target := by
  rcases source with ⟨id, _ | statement⟩ <;> rcases target with ⟨targetId, targetStatement⟩ <;>
    simp [boundStatement, asBound]

theorem error?_boundStatement (source : Nat × Except SharedError Statement) :
    error? (boundStatement source) = error? source.2 := by
  rcases source with ⟨id, _ | statement⟩ <;> rfl

/-- The plan of statements which may be bound or not. -/
def planOf (statements : List (Except SharedError Statement)) :
    Except SharedError (List BoundEntry) :=
  (plan sameBatchBound (statements.mapIdx Prod.mk)).mapM (·.mapM boundStatement)

/-- Numbering members is numbering their statements. -/
theorem numberedStatements_eq (members : List Member) :
    numberedStatements members = (members.map (·.statement)).mapIdx Prod.mk := by
  rw [numberedStatements, List.mapIdx_eq_zipIdx_map, List.mapIdx_eq_zipIdx_map, List.zipIdx_map,
    List.map_map]
  rfl

theorem boundPlan_eq_planOf (members : List Member) :
    boundPlan members = planOf (members.map (·.statement)) := by
  rw [boundPlan, planOf, numberedStatements_eq]

theorem planOf_eq_ok_iff (statements : List (Except SharedError Statement))
    (entries : List BoundEntry) :
    planOf statements = .ok entries ↔
      plan sameBatchBound (statements.mapIdx Prod.mk) = entries.map (Entry.map asBound) :=
  mapM_eq_ok_iff (Entry.mapM_eq_ok_iff boundStatement_eq_ok_iff) _ _

/-- The entries of a plan hold the statements in order, each with its number. -/
theorem statements_of_planOf {statements : List (Except SharedError Statement)}
    {entries : List BoundEntry} (planned : planOf statements = .ok entries) :
    (entries.flatMap Entry.statements).map asBound = statements.mapIdx Prod.mk := by
  have divided := (planOf_eq_ok_iff statements entries).mp planned
  calc (entries.flatMap Entry.statements).map asBound
      = (entries.map (Entry.map asBound)).flatMap Entry.statements := by
        simp [List.map_flatMap, List.flatMap_map]
    _ = statements.mapIdx Prod.mk := by rw [← divided, plan_statements]

/-- All statements of a plan are bound. -/
theorem bound_of_planOf {statements : List (Except SharedError Statement)}
    {entries : List BoundEntry} (planned : planOf statements = .ok entries) :
    statements = ((entries.flatMap Entry.statements).map Prod.snd).map .ok := by
  have numbered := congrArg (List.map Prod.snd) (statements_of_planOf planned)
  rw [List.mapIdx_eq_zipIdx_map, List.map_map, List.map_map] at numbered
  calc statements = statements.zipIdx.map Prod.fst := (List.zipIdx_map_fst 0 statements).symm
    _ = _ := by rw [List.map_map]; exact numbered.symm

/-- An entry of a plan is one statement, or a batch of updates with the same text. -/
theorem sameBatch_of_planOf {statements : List (Except SharedError Statement)}
    {entries : List BoundEntry} (planned : planOf statements = .ok entries)
    {entry : BoundEntry} (member : entry ∈ entries) :
    ∀ other ∈ entry.others, entry.first.2.sameBatch other.2 = true := by
  have divided := (planOf_eq_ok_iff statements entries).mp planned
  intro other among
  have planned : entry.map asBound ∈ plan sameBatchBound (statements.mapIdx Prod.mk) :=
    divided ▸ List.mem_map_of_mem member
  exact sameBatch_of_plan _ _ _ planned (asBound other) (List.mem_map_of_mem among)

theorem length_of_planOf {statements : List (Except SharedError Statement)}
    {entries : List BoundEntry} (planned : planOf statements = .ok entries) :
    (entries.flatMap Entry.statements).length = statements.length := by
  simpa using congrArg List.length (statements_of_planOf planned)

/-- The statements of a plan are numbered from 0. -/
theorem numbers_of_planOf {statements : List (Except SharedError Statement)}
    {entries : List BoundEntry} (planned : planOf statements = .ok entries) :
    (entries.flatMap Entry.statements).map Prod.fst = List.range statements.length := by
  have numbered := congrArg (List.map Prod.fst) (statements_of_planOf planned)
  rw [List.map_map, List.mapIdx_eq_zipIdx_map, List.map_map] at numbered
  calc (entries.flatMap Entry.statements).map Prod.fst
      = statements.zipIdx.map Prod.snd := numbered
    _ = List.range statements.length := by rw [List.zipIdx_map_snd, List.range_eq_range']

/-- There is no plan exactly if a statement is not bound, and then the first such
statement is the reason. -/
theorem error?_planOf (statements : List (Except SharedError Statement)) :
    error? (planOf statements) = statements.findSome? error? := by
  simp only [planOf, error?_mapM, Entry.error?_mapM, error?_boundStatement]
  rw [findSome?_statements, plan_statements, List.mapIdx_eq_zipIdx_map, List.findSome?_map]
  calc statements.zipIdx.findSome? (error? ∘ Prod.fst)
      = (statements.zipIdx.map Prod.fst).findSome? error? := List.findSome?_map.symm
    _ = statements.findSome? error? := by rw [List.zipIdx_map_fst]

/-- Statements which are bound have a plan, whose entries hold them in order, each with its
number. -/
theorem exists_planOf (statements : List Statement) :
    ∃ entries, planOf (statements.map .ok) = .ok entries ∧
      entries.flatMap Entry.statements = statements.mapIdx Prod.mk := by
  have unfailing : error? (planOf (statements.map .ok)) = none := by
    rw [error?_planOf, List.findSome?_map, List.findSome?_eq_none_iff]
    exact fun _ _ => rfl
  cases planned : planOf (statements.map .ok) with
  | error error =>
      rw [planned] at unfailing
      cases unfailing
  | ok entries =>
      refine ⟨entries, rfl, ?_⟩
      have injective : ∀ first second, asBound first = asBound second → first = second := by
        rintro ⟨_, _⟩ ⟨_, _⟩ ⟨⟩
        rfl
      rw [← List.map_inj_right injective, statements_of_planOf planned]
      simp [List.mapIdx_eq_zipIdx_map, List.zipIdx_map, asBound]

end NamedSql
