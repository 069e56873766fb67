import NamedSql.Proofs.Query.Types

/-!
# The values which placeholders name

A placeholder addresses an argument, or a property of one, by names which may be declared more
than once: the first declaration counts.  A call binds what its placeholders address, each by
the strategy of the declared kind.
-/

namespace NamedSql

open Sql

/-! ## Names -/

/-- The first of the given named kinds which has the name stands at an index. -/
structure FirstNamed (named : List (String × Kind)) (index : Nat) (name : String) (kind : Kind) :
    Prop where
  found : named[index]? = some (name, kind)
  first : ∀ earlier < index, ∀ other, named[earlier]? = some other → other.1 ≠ name

section Names

variable {named : List (String × Kind)} {index : Nat} {name found : String} {kind : Kind}

theorem find?_zipIdx_eq_some_iff :
    named.zipIdx.find? (·.1.1 == name) = some ((found, kind), index) ↔
      found = name ∧ FirstNamed named index name kind := by
  rw [List.find?_eq_some_iff_getElem]
  constructor
  · rintro ⟨same, place, inside, here, earlier⟩
    obtain rfl := beq_iff_eq.mp same
    rw [List.getElem_zipIdx, Prod.mk.injEq, Nat.zero_add] at here
    obtain ⟨here, rfl⟩ := here
    rw [List.length_zipIdx] at inside
    refine ⟨rfl, List.getElem?_eq_some_iff.mpr ⟨inside, here⟩, ?_⟩
    intro other before entry present
    obtain ⟨_, rfl⟩ := List.getElem?_eq_some_iff.mp present
    simpa using earlier other before
  · rintro ⟨rfl, here, first⟩
    obtain ⟨inside, here⟩ := List.getElem?_eq_some_iff.mp here
    refine ⟨beq_self_eq_true _, index, by rwa [List.length_zipIdx], ?_, ?_⟩
    · rw [List.getElem_zipIdx, here, Nat.zero_add]
    · intro other before
      have different := first other before _ (List.getElem?_eq_getElem (by omega))
      simpa using different

theorem find?_named_eq_some_iff :
    named.find? (·.1 == name) = some (found, kind) ↔
      found = name ∧ ∃ index, FirstNamed named index name kind := by
  have withIndex : named.find? (·.1 == name) =
      (named.zipIdx.find? (·.1.1 == name)).map (·.1) := by
    conv_lhs => rw [← List.zipIdx_map_fst 0 named, List.find?_map]
    rfl
  rw [withIndex, Option.map_eq_some_iff, ← exists_and_left]
  constructor
  · rintro ⟨⟨_, index⟩, present, rfl⟩
    exact ⟨index, find?_zipIdx_eq_some_iff.mp present⟩
  · rintro ⟨index, firstNamed⟩
    exact ⟨_, find?_zipIdx_eq_some_iff.mpr firstNamed, rfl⟩

theorem find?_named_eq_none_iff :
    named.find? (·.1 == name) = none ↔ ∀ other ∈ named, other.1 ≠ name := by
  simp

end Names

/-- The property which a segment of a placeholder names: the one of that name, else the boolean
of that name after `is_`, else the one of that name after `get_`.  Of several properties of one
name the first counts. -/
inductive Exposes (properties : List Property) (segment : String) : String → Kind → Prop where
  | named {index : Nat} {kind : Kind} (firstNamed : FirstNamed properties index segment kind) :
      Exposes properties segment segment kind
  | boolean {index : Nat} (unnamed : ∀ other ∈ properties, other.1 ≠ segment)
      (firstNamed : FirstNamed properties index ("is_" ++ segment) .bool) :
      Exposes properties segment ("is_" ++ segment) .bool
  | getter {index : Nat} {kind : Kind} (unnamed : ∀ other ∈ properties, other.1 ≠ segment)
      (noBoolean : ∀ index, ¬FirstNamed properties index ("is_" ++ segment) .bool)
      (firstNamed : FirstNamed properties index ("get_" ++ segment) kind) :
      Exposes properties segment ("get_" ++ segment) kind

/-- What a path names in a call, with its kind: the argument of the first parameter of its name,
or the property of that argument which its segment exposes, null if the argument has none. -/
inductive Addresses (parameters : List Parameter) (arguments : List Json) :
    Path → Kind → Json → Prop where
  | argument {name : String} {index : Nat} {kind : Kind} {value : Json}
      (named : FirstNamed parameters index name kind) (given : arguments[index]? = some value) :
      Addresses parameters arguments ⟨name, none⟩ kind value
  | property {name record segment property : String} {properties : List Property} {index : Nat}
      {kind : Kind} {value : Json}
      (named : FirstNamed parameters index name (.record record properties))
      (given : arguments[index]? = some value)
      (exposed : Exposes properties segment property kind) :
      Addresses parameters arguments ⟨name, some segment⟩ kind ((value.get? property).getD .null)

/-- What is declared for a path, and where its value is found in a call: the first parameter of
its name, or the property of that parameter which its segment exposes. -/
inductive Declares (parameters : List Parameter) : Path → ValueSource → Kind → Prop where
  | argument {name : String} {index : Nat} {kind : Kind}
      (named : FirstNamed parameters index name kind) :
      Declares parameters ⟨name, none⟩ ⟨index, none⟩ kind
  | property {name record segment property : String} {properties : List Property} {index : Nat}
      {kind : Kind} (named : FirstNamed parameters index name (.record record properties))
      (exposed : Exposes properties segment property kind) :
      Declares parameters ⟨name, some segment⟩ ⟨index, some property⟩ kind

/-! ## Resolution -/

namespace Property

variable {properties : List Property} {segment property : String} {kind : Kind}

theorem find?_eq_some_iff :
    find? properties segment = some (property, kind) ↔
      property = segment ∧ ∃ index, FirstNamed properties index segment kind :=
  find?_named_eq_some_iff

theorem findBool?_eq_some_iff :
    findBool? properties segment = some (property, kind) ↔
      property = segment ∧ kind = .bool ∧ ∃ index, FirstNamed properties index segment .bool := by
  have isBoolean : findBool? properties segment = some (property, kind) ↔
      kind = .bool ∧ find? properties segment = some (property, .bool) := by
    rw [findBool?]
    split
    · next found =>
      rw [found]
      simp [and_comm, eq_comm]
    · next noBoolean =>
      constructor
      · intro absent
        cases absent
      · rintro ⟨-, found⟩
        exact (noBoolean property found).elim
  rw [isBoolean, find?_eq_some_iff, and_left_comm]

theorem findBool?_eq_none_iff :
    findBool? properties segment = none ↔
      ∀ index, ¬FirstNamed properties index segment .bool := by
  rw [Option.eq_none_iff_forall_ne_some]
  constructor
  · intro absent index firstNamed
    exact absent (segment, .bool) (findBool?_eq_some_iff.mpr ⟨rfl, rfl, index, firstNamed⟩)
  · rintro noBoolean ⟨found, kind⟩ present
    obtain ⟨-, -, index, firstNamed⟩ := findBool?_eq_some_iff.mp present
    exact noBoolean index firstNamed

/-- The property which is read for a segment is the one which the segment exposes. -/
theorem resolve?_eq_some_iff :
    resolve? properties segment = some (property, kind) ↔
      Exposes properties segment property kind := by
  have inOrder : resolve? properties segment = (find? properties segment).or
      ((findBool? properties ("is_" ++ segment)).or (find? properties ("get_" ++ segment))) := by
    rw [resolve?]
    cases find? properties segment <;> cases findBool? properties ("is_" ++ segment) <;> rfl
  have unnamed : find? properties segment = none ↔ ∀ other ∈ properties, other.1 ≠ segment :=
    find?_named_eq_none_iff
  rw [inOrder, Option.or_eq_some_iff, Option.or_eq_some_iff, unnamed, findBool?_eq_none_iff,
    find?_eq_some_iff, find?_eq_some_iff, findBool?_eq_some_iff]
  constructor
  · rintro (⟨rfl, _, firstNamed⟩ | ⟨unnamed, ⟨rfl, rfl, _, firstNamed⟩ |
      ⟨noBoolean, rfl, _, firstNamed⟩⟩)
    · exact .named firstNamed
    · exact .boolean unnamed firstNamed
    · exact .getter unnamed noBoolean firstNamed
  · intro exposes
    cases exposes with
    | named firstNamed => exact .inl ⟨rfl, _, firstNamed⟩
    | boolean unnamed firstNamed => exact .inr ⟨unnamed, .inl ⟨rfl, rfl, _, firstNamed⟩⟩
    | getter unnamed noBoolean firstNamed =>
        exact .inr ⟨unnamed, .inr ⟨noBoolean, rfl, _, firstNamed⟩⟩

end Property

section Resolution

variable {parameters : List Parameter} {arguments : List Json} {path : Path} {kind : Kind}
  {value : Json}

/-- A parameter has an argument in every call with the right number of arguments. -/
theorem FirstNamed.exists_argument {index : Nat} {name : String}
    (firstNamed : FirstNamed parameters index name kind)
    (counted : arguments.length = parameters.length) :
    ∃ value, arguments[index]? = some value := by
  obtain ⟨inside, _⟩ := List.getElem?_eq_some_iff.mp firstNamed.found
  exact ⟨_, List.getElem?_eq_getElem (counted ▸ inside)⟩

/-- Exactly what is declared for a path is found. -/
theorem resolve?_eq_some_iff {source : ValueSource} :
    resolve? parameters path = some (source, kind) ↔ Declares parameters path source kind := by
  constructor
  · intro resolved
    rcases path with ⟨name, segment⟩
    rw [resolve?] at resolved
    split at resolved
    · cases resolved
    · next found declared index present =>
      obtain ⟨rfl, firstNamed⟩ := find?_zipIdx_eq_some_iff.mp present
      split at resolved
      · next whole =>
        cases resolved
        cases whole
        exact .argument firstNamed
      · next segment record properties partly =>
        cases partly
        obtain ⟨⟨property, _⟩, exposed, same⟩ := Option.map_eq_some_iff.mp resolved
        cases same
        exact .property firstNamed (Property.resolve?_eq_some_iff.mp exposed)
      · cases resolved
  · intro declares
    cases declares with
    | argument named => rw [resolve?, find?_zipIdx_eq_some_iff.mpr ⟨rfl, named⟩]
    | property named exposed =>
        rw [resolve?, find?_zipIdx_eq_some_iff.mpr ⟨rfl, named⟩]
        simp only [Property.resolve?_eq_some_iff.mpr exposed, Option.map_some]

/-- What a path addresses is read from the source which the path is resolved to. -/
theorem addresses_iff (counted : arguments.length = parameters.length) :
    Addresses parameters arguments path kind value ↔
      ∃ source, resolve? parameters path = some (source, kind) ∧ source.read arguments = value := by
  constructor
  · intro addresses
    cases addresses with
    | argument named given =>
        refine ⟨_, resolve?_eq_some_iff.mpr (.argument named), ?_⟩
        simp only [ValueSource.read, given, Option.getD_some]
    | property named given exposed =>
        refine ⟨_, resolve?_eq_some_iff.mpr (.property named exposed), ?_⟩
        simp only [ValueSource.read, given, Option.getD_some]
  · rintro ⟨source, resolved, rfl⟩
    cases resolve?_eq_some_iff.mp resolved with
    | argument named =>
        obtain ⟨argument, given⟩ := named.exists_argument counted
        simp only [ValueSource.read, given, Option.getD_some]
        exact .argument named given
    | property named exposed =>
        obtain ⟨argument, given⟩ := named.exists_argument counted
        simp only [ValueSource.read, given, Option.getD_some]
        exact .property named given exposed

end Resolution

/-! ## Binding a call -/

/-- Where a kind has a strategy at all, it has the same one everywhere. -/
theorem BindStrategy.forKind?_false {kind : Kind} {arrayContext : Bool} {strategy : BindStrategy}
    (chosen : forKind? kind arrayContext = some strategy) :
    forKind? kind false = some strategy := by
  cases kind with
  | list element =>
      rw [forKind?] at chosen ⊢
      cases native : element.arrayType? with
      | some type => simpa [native] using chosen
      | none => cases arrayContext <;> simp_all
  | _ => exact chosen

namespace Query

variable {method : String} {parameters : List Parameter} {query : Query}

/-- A binder reads what its path addresses, and binds it by the strategy of the kind found
there. -/
theorem resolved_of_parse {sql : String} (parsed : parse method sql parameters = .ok query) :
    ∀ binder ∈ query.binders, ∃ kind,
      resolve? parameters binder.path = some (binder.source, kind) ∧
        BindStrategy.forKind? kind false = some binder.strategy := by
  intro binder among
  obtain ⟨_, _, _, made⟩ := made_of_parse parsed binder among
  obtain ⟨-, rfl, kind, resolved, chosen⟩ := binderFor_eq_ok_iff.mp made
  exact ⟨kind, resolved, BindStrategy.forKind?_false chosen⟩

/-- The binders are those of the placeholders of the text with its clauses written anew. -/
theorem paths_of_parse {sql : String} (parsed : parse method sql parameters = .ok query) :
    query.binders.map (·.path) =
      placeholders (tokenize (replaceClauses (addressesList parameters) sql.toList)) := by
  obtain ⟨-, -, aligned⟩ := parse_ok parsed
  rw [aligned.paths, Layout.paths_ofTokens]

/-- Binders of one path bind the same value. -/
theorem bind_eq_of_path {sql : String} (parsed : parse method sql parameters = .ok query)
    {first second : Binder} (among : first ∈ query.binders) (amongToo : second ∈ query.binders)
    (same : first.path = second.path) (arguments : List Json) :
    first.bind arguments = second.bind arguments := by
  obtain ⟨kind, resolved, chosen⟩ := resolved_of_parse parsed first among
  obtain ⟨_, resolvedToo, chosenToo⟩ := resolved_of_parse parsed second amongToo
  rw [same, resolvedToo, Option.some.injEq, Prod.mk.injEq] at resolved
  obtain ⟨source, rfl⟩ := resolved
  have strategy := Option.some.inj (chosenToo.symm.trans chosen)
  rw [Binder.bind, Binder.bind, same, source, strategy]

end Query

namespace Method

variable {name sql : String} {kind : StatementKind} {parameters : List Parameter} {method : Method}

theorem eq_of_declare (declared : declare name kind sql parameters = .ok method) :
    method = ⟨name, kind, parameters, method.query⟩ := by
  obtain ⟨query, -, same⟩ := Query.exists_of_bind_ok declared
  cases same
  rfl

/-- Binding a call with the right number of arguments is binding the query. -/
theorem bind_of_counted {arguments : List Json}
    (counted : arguments.length = method.parameters.length) :
    method.bind arguments = (fun values => ⟨method.name, method.kind, method.query, values⟩) <$>
      method.query.bind arguments := by
  rw [bind, if_neg (not_not.mpr counted)]
  cases method.query.bind arguments <;> rfl

/-- A call is refused for its number of arguments exactly if it has another number of them than
there are parameters. -/
theorem bind_argumentCount_iff (declared : declare name kind sql parameters = .ok method)
    (arguments : List Json) (signature : String) (expected actual : Nat) :
    method.bind arguments = .error (.argumentCount signature expected actual) ↔
      arguments.length ≠ parameters.length ∧ signature = method.signature ∧
        expected = parameters.length ∧ actual = arguments.length := by
  have same : method.parameters = parameters := by rw [eq_of_declare declared]
  rw [← same]
  constructor
  · intro failed
    by_cases counted : arguments.length = method.parameters.length
    · rw [bind_of_counted counted] at failed
      have chosen := Query.chosen_of_parse (parse_of_declare declared)
      obtain ⟨_, _, _, refusal⟩ := Query.refuses_of_bind chosen (eq_of_map_error failed)
      cases refusal
    · rw [bind, if_pos counted] at failed
      cases failed
      exact ⟨counted, rfl, rfl, rfl⟩
  · rintro ⟨miscounted, rfl, rfl, rfl⟩
    rw [bind, if_pos miscounted]

/-- Each binder binds what the path of its placeholder addresses. -/
theorem results_addressed (declared : declare name kind sql parameters = .ok method)
    {arguments : List Json} (counted : arguments.length = parameters.length) :
    List.Forall₂ (fun path result => ∃ kind value strategy,
        Addresses parameters arguments path kind value ∧
          BindStrategy.forKind? kind false = some strategy ∧
          result = strategy.bind path.text value)
      (method.query.binders.map (·.path)) (method.query.binders.map (·.bind arguments)) := by
  rw [List.forall₂_map_left_iff, List.forall₂_map_right_iff, List.forall₂_same]
  intro binder among
  obtain ⟨kind, resolved, chosen⟩ :=
    Query.resolved_of_parse (parse_of_declare declared) binder among
  exact ⟨kind, _, binder.strategy, (addresses_iff counted).mpr ⟨_, resolved, rfl⟩, chosen, rfl⟩

/-- A call of a declared method is refused for its number of arguments exactly if there are more
or fewer of them than parameters.  Otherwise each placeholder stands for a result: of binding
what its path addresses, by the strategy of the kind which is declared there.  The call succeeds
exactly if all of them do, and binds their values in order; its error is the first one among
them.  Placeholders of one path therefore stand for the same value. -/
theorem bind_addressed (declared : declare name kind sql parameters = .ok method)
    (arguments : List Json) :
    let paths := placeholders (tokenize (replaceClauses (addressesList parameters) sql.toList))
    (∀ signature expected actual,
      method.bind arguments = .error (.argumentCount signature expected actual) ↔
        arguments.length ≠ parameters.length ∧ signature = method.signature ∧
          expected = parameters.length ∧ actual = arguments.length) ∧
    (arguments.length = parameters.length →
      ∃ results : List (Except Error SqlValue),
        List.Forall₂ (fun path result => ∃ kind value strategy,
          Addresses parameters arguments path kind value ∧
            BindStrategy.forKind? kind false = some strategy ∧
            result = strategy.bind path.text value) paths results ∧
        (∀ statement, method.bind arguments = .ok statement ↔
          ∃ values, statement = ⟨name, kind, method.query, values⟩ ∧
            results = values.map .ok) ∧
        ∀ error, method.bind arguments = .error error ↔
          ∃ (earlier : List SqlValue) (later : List (Except Error SqlValue)),
            results = earlier.map .ok ++ .error error :: later) ∧
    ∀ statement, method.bind arguments = .ok statement → ∀ (first second : Nat) (path : Path),
      paths[first]? = some path → paths[second]? = some path →
        statement.values[first]? = statement.values[second]? := by
  intro paths
  have parsed := parse_of_declare declared
  have made : method = ⟨name, kind, parameters, method.query⟩ := eq_of_declare declared
  have ofBinders : method.query.binders.map (·.path) = paths := Query.paths_of_parse parsed
  refine ⟨bind_argumentCount_iff declared arguments, ?_, ?_⟩
  · intro counted
    have countedToo : arguments.length = method.parameters.length := by rw [made, counted]
    have whole := bind_of_counted countedToo
    refine ⟨method.query.binders.map (·.bind arguments), ?_, ?_, ?_⟩
    · rw [← ofBinders]
      exact results_addressed declared counted
    · intro statement
      simp only [← mapM_eq_ok_iff_map]
      rw [whole, made, Query.bind]
      cases method.query.binders.mapM (·.bind arguments) <;>
        simp [Functor.map, Except.map, eq_comm]
    · intro error
      rw [← mapM_eq_error_iff_map, whole, Query.bind]
      cases method.query.binders.mapM (·.bind arguments) <;> simp [Functor.map, Except.map]
  · intro statement bound first second path here there
    have results := map_eq_of_mapM_ok (bind_ok bound).2
    have inOrder (index : Nat) : (statement.values[index]?).map Except.ok =
        (method.query.binders[index]?).map (·.bind arguments) := by
      rw [← List.getElem?_map, ← List.getElem?_map, results]
    rw [← ofBinders, List.getElem?_map, Option.map_eq_some_iff] at here there
    obtain ⟨one, oneHere, rfl⟩ := here
    obtain ⟨other, otherThere, same⟩ := there
    apply Option.map_injective (f := (Except.ok : SqlValue → Except Error SqlValue))
      fun _ _ => Except.ok.inj
    rw [inOrder, inOrder, oneHere, otherThere, Option.map_some, Option.map_some,
      Query.bind_eq_of_path parsed (List.mem_of_getElem? oneHere)
        (List.mem_of_getElem? otherThere) same.symm]

/-- A property which is exposed after `get_` is bound alike wherever it is named, and a boolean
which is exposed after `is_` and absent is bound as null. -/
theorem bind_addressed_twice :
    ∃ method statement, declare "put" .update
        "UPDATE item SET c = :b.c, open = :b.open WHERE id = :id AND c <> :b.c"
        [("b", .record "B" [("is_open", .bool), ("get_c", .text)]), ("id", .bigInt),
          ("b", .text)] = .ok method ∧
      method.bind [.obj [("get_c", .str "x")], .int 5, .str "y"] = .ok statement ∧
      statement.values = [.text "x", .null .boolean, .bigInt 5, .text "x"] ∧
      statement.values[0]? = statement.values[3]? := by
  let parameters : List Parameter :=
    [("b", .record "B" [("is_open", .bool), ("get_c", .text)]), ("id", .bigInt), ("b", .text)]
  let sql := "UPDATE item SET c = :b.c, open = :b.open WHERE id = :id AND c <> :b.c"
  let query : Query := ⟨"UPDATE item SET c = ?, open = ? WHERE id = ? AND c <> ?",
    [⟨1, ⟨"b", some "c"⟩, ⟨0, some "get_c"⟩, .scalar .varchar⟩,
      ⟨2, ⟨"b", some "open"⟩, ⟨0, some "is_open"⟩, .scalar .boolean⟩,
      ⟨3, ⟨"id", none⟩, ⟨1, none⟩, .scalar .bigInt⟩,
      ⟨4, ⟨"b", some "c"⟩, ⟨0, some "get_c"⟩, .scalar .varchar⟩]⟩
  let method : Method := ⟨"put", .update, parameters, query⟩
  let statement : Statement :=
    ⟨"put", .update, query, [.text "x", .null .boolean, .bigInt 5, .text "x"]⟩
  have parsed : Query.parse "put" sql parameters = .ok query := by decide +kernel
  have declared : declare "put" .update sql parameters = .ok method := by
    rw [declare, parsed]
    rfl
  have bound : method.bind [.obj [("get_c", .str "x")], .int 5, .str "y"] = .ok statement := rfl
  have named : placeholders (tokenize (replaceClauses (addressesList parameters) sql.toList)) =
      [⟨"b", some "c"⟩, ⟨"b", some "open"⟩, ⟨"id", none⟩, ⟨"b", some "c"⟩] := by decide +kernel
  obtain ⟨-, -, alike⟩ := bind_addressed declared [.obj [("get_c", .str "x")], .int 5, .str "y"]
  rw [named] at alike
  exact ⟨method, statement, declared, bound, rfl, alike statement bound 0 3 _ rfl rfl⟩

end Method

end NamedSql
