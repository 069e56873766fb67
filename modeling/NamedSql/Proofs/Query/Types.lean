import NamedSql.Postgres.WireType
import NamedSql.Proofs.Binding.Types
import NamedSql.Proofs.Query.Positions
import NamedSql.Statement

/-!
# Types of a statement

The types which the values of a statement are bound as are those of the strategies of its
query, whatever the arguments.  Statements whose queries have the same shape are therefore
declared alike, and no declared method makes arrays of a type without them.
-/

namespace NamedSql

open Sql

namespace Query

variable {method : String} {parameters : List Parameter} {query : Query} {arguments : List Json}

/-! ## Strategies of a declared query -/

/-- A binder whose strategy was chosen for a kind. -/
def Chosen (binder : Binder) : Prop :=
  ∃ kind arrayContext, BindStrategy.forKind? kind arrayContext = some binder.strategy

/-- The strategies of a parsed query were chosen for kinds. -/
theorem chosen_of_parse {sql : String} (parsed : parse method sql parameters = .ok query) :
    ∀ binder ∈ query.binders, Chosen binder := by
  intro binder among
  obtain ⟨preceding, _, _, made⟩ := made_of_parse parsed binder among
  obtain ⟨-, -, kind, -, chosen⟩ := binderFor_eq_ok_iff.mp made
  exact ⟨kind, isArrayContext preceding, chosen⟩

/-- A chosen strategy makes native arrays only. -/
theorem Chosen.hasArrays {binder : Binder} (chosen : Chosen binder) :
    ∀ element, binder.strategy = .array element → element.hasArrays = true := by
  rintro element listed
  obtain ⟨kind, arrayContext, chosen⟩ := chosen
  rw [listed] at chosen
  exact BindStrategy.hasArrays_of_forKind? chosen

/-! ## Binding -/

/-- The types which the values of a query are bound as. -/
def types (query : Query) : List ParameterType :=
  query.binders.map (·.strategy.type)

/-- Values have the types of the strategies, position by position. -/
theorem types_of_bind {values : List SqlValue} (succeeded : query.bind arguments = .ok values) :
    values.map SqlValue.type = query.types := by
  rw [types]
  unfold bind at succeeded
  generalize query.binders = binders at succeeded ⊢
  have each := forall₂_of_mapM_ok succeeded
  clear succeeded
  induction each with
  | nil => rfl
  | cons here _ inductionHypothesis =>
      rw [List.map_cons, List.map_cons, inductionHypothesis, BindStrategy.type_of_bind here]

/-- If the strategies were chosen for kinds, only documents are refused. -/
theorem refuses_of_bind (chosen : ∀ binder ∈ query.binders, Chosen binder) {error : Error}
    (failed : query.bind arguments = .error error) :
    ∃ placeholder, BindStrategy.Refuses placeholder error := by
  obtain ⟨binder, among, refused⟩ := exists_of_mapM_error failed
  exact ⟨binder.path.text, BindStrategy.refuses_of_bind (chosen binder among).hasArrays refused⟩

/-- If the strategies were chosen for kinds, arrays are native. -/
theorem hasArrays_of_types (chosen : ∀ binder ∈ query.binders, Chosen binder) {element : SqlType}
    (listed : .array element ∈ query.types) : element.hasArrays = true := by
  obtain ⟨binder, among, type⟩ := List.mem_map.mp listed
  apply (chosen binder among).hasArrays
  cases strategy : binder.strategy with
  | array other =>
      rw [strategy] at type
      cases type
      rfl
  | _ =>
      rw [strategy] at type
      cases type

theorem types_of_sameShape {other : Query} (same : query.sameShape other = true) :
    query.types = other.types := by
  simp only [sameShape, Bool.and_eq_true, beq_iff_eq] at same
  have strategies := congrArg (List.map BindStrategy.type) same.2
  rwa [List.map_map, List.map_map] at strategies

end Query

namespace Method

variable {name sql : String} {kind : StatementKind} {parameters : List Parameter} {method : Method}
  {arguments : List Json}

theorem parse_of_declare (declared : declare name kind sql parameters = .ok method) :
    Query.parse name sql parameters = .ok method.query := by
  obtain ⟨query, parsed, same⟩ := Query.exists_of_bind_ok declared
  cases same
  exact parsed

/-- A statement is the query of its method with values which the arguments were bound to. -/
theorem bind_ok {statement : Statement} (bound : method.bind arguments = .ok statement) :
    statement.query = method.query ∧ method.query.bind arguments = .ok statement.values := by
  unfold bind at bound
  split at bound
  · cases bound
  · obtain ⟨values, succeeded, same⟩ := Query.exists_of_bind_ok bound
    cases same
    exact ⟨rfl, succeeded⟩

theorem bind_error {error : Error} (failed : method.bind arguments = .error error) :
    error = .argumentCount method.signature method.parameters.length arguments.length ∨
      method.query.bind arguments = .error error := by
  unfold bind at failed
  split at failed
  · exact .inl (Except.error.inj failed).symm
  · right
    cases bound : method.query.bind arguments with
    | ok values =>
        rw [bound] at failed
        cases failed
    | error other =>
        rw [bound] at failed
        cases failed
        rfl

/-- The values of a statement have the types of the strategies of its query. -/
theorem types_of_bind {statement : Statement} (bound : method.bind arguments = .ok statement) :
    statement.values.map SqlValue.type = statement.query.types := by
  obtain ⟨same, succeeded⟩ := bind_ok bound
  rw [same]
  exact Query.types_of_bind succeeded

end Method

namespace Statement

open Postgres

/-- A statement which a call of a declared method was bound to. -/
def Made (statement : Statement) : Prop :=
  ∃ name kind sql parameters method arguments,
    Method.declare name kind sql parameters = .ok method ∧ method.bind arguments = .ok statement

theorem Made.types {statement : Statement} (made : statement.Made) :
    statement.values.map SqlValue.type = statement.query.types := by
  obtain ⟨_, _, _, _, _, _, -, bound⟩ := made
  exact Method.types_of_bind bound

/-- The types of bound values follow from the strategies alone, nulls included.  Statements of
declared methods which may share a batch therefore have the same types, position by position,
and are declared to the server with the same types.  Declared methods make arrays only of types
which have them: no argument is refused because its type has none, and none becomes the null of
such an array. -/
theorem declared_alike :
    (∀ (strategy : BindStrategy) placeholder value bound,
      strategy.bind placeholder value = .ok bound → bound.type = strategy.type) ∧
    (∀ name kind sql parameters method arguments,
      Method.declare name kind sql parameters = .ok method →
      (∀ placeholder element,
        method.bind arguments ≠ .error (.unsupportedArrayType placeholder element)) ∧
      ∀ statement, method.bind arguments = .ok statement →
        statement.values.map SqlValue.type = method.query.binders.map (·.strategy.type) ∧
        ∀ value ∈ statement.values, ∀ element, value.type = .array element →
          element.hasArrays = true) ∧
    (∀ first second : Statement, first.Made → second.Made → first.sameBatch second = true →
      first.values.length = second.values.length ∧
      first.values.map SqlValue.type = second.values.map SqlValue.type ∧
      first.values.map (fun value => WireType.ofParameter value.type) =
        second.values.map fun value => WireType.ofParameter value.type) := by
  constructor
  · intro strategy placeholder value bound succeeded
    exact BindStrategy.type_of_bind succeeded
  · constructor
    · intro name kind sql parameters method arguments declared
      have chosen := Query.chosen_of_parse (Method.parse_of_declare declared)
      constructor
      · intro placeholder element failed
        rcases Method.bind_error failed with miscounted | refused
        · cases miscounted
        · obtain ⟨_, _, _, refusal⟩ := Query.refuses_of_bind chosen refused
          cases refusal
      · intro statement bound
        have types := Method.types_of_bind bound
        rw [(Method.bind_ok bound).1] at types
        constructor
        · exact types
        · intro value among element listed
          apply Query.hasArrays_of_types chosen
          rw [← types, ← listed]
          exact List.mem_map_of_mem among
    · intro first second firstMade secondMade same
      have shape : first.query.sameShape second.query = true := by
        simp only [sameBatch, Bool.and_eq_true] at same
        exact same.2
      have types : first.values.map SqlValue.type = second.values.map SqlValue.type := by
        rw [firstMade.types, secondMade.types, Query.types_of_sameShape shape]
      have declared := congrArg (List.map WireType.ofParameter) types
      rw [List.map_map, List.map_map] at declared
      constructor
      · simpa using congrArg List.length types
      · exact ⟨types, declared⟩

/-- A statement whose values are null shares a batch with one whose values are not. -/
theorem declared_alike_nulls :
    ∃ first second : Statement, first.Made ∧ second.Made ∧ first.sameBatch second = true ∧
      first.values = [.null .bigInt, .nullArray .varchar] ∧
      second.values = [.bigInt 5, .array (.varchar [some "a", none])] ∧
      first.values.map SqlValue.type = second.values.map SqlValue.type := by
  let parameters : List Parameter := [("id", .bigInt), ("tags", .list .text)]
  let query : Query := ⟨"INSERT INTO item VALUES (?, ?)",
    [⟨1, ⟨"id", none⟩, ⟨0, none⟩, .scalar .bigInt⟩, ⟨2, ⟨"tags", none⟩, ⟨1, none⟩, .array .varchar⟩]⟩
  let method : Method := ⟨"put", .update, parameters, query⟩
  have parsed : Query.parse "put" "INSERT INTO item VALUES (:id, :tags)" parameters = .ok query := by
    decide +kernel
  have declared : Method.declare "put" .update "INSERT INTO item VALUES (:id, :tags)" parameters =
      .ok method := by
    rw [Method.declare, parsed]
    rfl
  let first : Statement := ⟨"put", .update, query, [.null .bigInt, .nullArray .varchar]⟩
  let second : Statement :=
    ⟨"put", .update, query, [.bigInt 5, .array (.varchar [some "a", none])]⟩
  have firstMade : first.Made :=
    ⟨_, _, _, _, method, [.null, .null], declared, rfl⟩
  have secondMade : second.Made :=
    ⟨_, _, _, _, method, [.int 5, .arr [.str "a", .null]], declared, rfl⟩
  have same : first.sameBatch second = true := by decide +kernel
  exact ⟨first, second, firstMade, secondMade, same, rfl, rfl,
    (declared_alike.2.2 first second firstMade secondMade same).2.1⟩

end Statement

end NamedSql
