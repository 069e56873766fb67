import NamedSql.Proofs.Query.Values

/-!
# The order of parameters

Parameters of distinct names may be declared in any order.  What a path addresses is found by its
name, so it has the same kind and, in calls with the same arguments for the same parameters, the
same value.  Text with positions and strategies follow from the kinds, and bound values from the
values addressed, so only the sources of the binders tell the orders apart.
-/

namespace NamedSql

open Sql

/-- The error, displaying the given signature where it displays that of a method. -/
def Error.withSignature (signature : String) : Error → Error
  | .unresolvedParameter placeholder _ => .unresolvedParameter placeholder signature
  | error => error

/-! ## Paths -/

section Paths

variable {parameters permuted : List Parameter} {arguments reordered : List Json} {path : Path}
  {name : String} {kind : Kind} {value : Json}

/-- The kind and the value which a path addresses in a call. -/
def addressed? (parameters : List Parameter) (arguments : List Json) (path : Path) :
    Option (Kind × Json) :=
  (resolve? parameters path).map fun (source, kind) => (kind, source.read arguments)

theorem addressed?_eq_some_iff (counted : arguments.length = parameters.length) :
    addressed? parameters arguments path = some (kind, value) ↔
      Addresses parameters arguments path kind value := by
  rw [addresses_iff counted, addressed?, Option.map_eq_some_iff]
  constructor
  · rintro ⟨⟨source, kind⟩, resolved, same⟩
    cases same
    exact ⟨source, resolved, rfl⟩
  · rintro ⟨source, resolved, rfl⟩
    exact ⟨(source, kind), resolved, rfl⟩

/-- If names are distinct, any parameter is the first of its name. -/
theorem exists_firstNamed_iff (distinct : (parameters.map Prod.fst).Nodup) :
    (∃ index, FirstNamed parameters index name kind ∧ arguments[index]? = some value) ↔
      ((name, kind), value) ∈ parameters.zip arguments := by
  rw [List.mem_iff_getElem?]
  constructor
  · rintro ⟨index, named, given⟩
    exact ⟨index, List.getElem?_zip_eq_some.mpr ⟨named.found, given⟩⟩
  · rintro ⟨index, here⟩
    obtain ⟨found, given⟩ := List.getElem?_zip_eq_some.mp here
    refine ⟨index, ⟨found, ?_⟩, given⟩
    intro earlier before other present same
    have nameHere : (parameters.map Prod.fst)[index]? = some name := by
      rw [List.getElem?_map, found]
      rfl
    have nameThere : (parameters.map Prod.fst)[earlier]? = some name := by
      rw [List.getElem?_map, present, ← same]
      rfl
    have inside : earlier < (parameters.map Prod.fst).length :=
      (List.getElem?_eq_some_iff.mp nameThere).1
    exact Nat.ne_of_lt before
      ((List.getElem?_inj inside distinct).mp (nameThere.trans nameHere.symm))

/-- What a path addresses is addressed wherever each parameter has the same argument. -/
theorem Addresses.of_perm (distinct : (parameters.map Prod.fst).Nodup)
    (reorders : permuted.Perm parameters)
    (alike : (permuted.zip reordered).Perm (parameters.zip arguments))
    (addresses : Addresses parameters arguments path kind value) :
    Addresses permuted reordered path kind value := by
  have distinctToo : (permuted.map Prod.fst).Nodup :=
    (reorders.map Prod.fst).nodup_iff.mpr distinct
  have kept {name : String} {kind : Kind} {value : Json} {index : Nat}
      (named : FirstNamed parameters index name kind) (given : arguments[index]? = some value) :
      ∃ place, FirstNamed permuted place name kind ∧ reordered[place]? = some value :=
    (exists_firstNamed_iff distinctToo).mpr
      (alike.mem_iff.mpr ((exists_firstNamed_iff distinct).mp ⟨index, named, given⟩))
  cases addresses with
  | argument named given =>
      obtain ⟨_, namedToo, givenToo⟩ := kept named given
      exact .argument namedToo givenToo
  | property named given exposed =>
      obtain ⟨_, namedToo, givenToo⟩ := kept named given
      exact .property namedToo givenToo exposed

/-- A path addresses the same in calls with the same argument for each parameter. -/
theorem addressed?_of_perm (distinct : (parameters.map Prod.fst).Nodup)
    (reorders : permuted.Perm parameters) (counted : arguments.length = parameters.length)
    (countedToo : reordered.length = permuted.length)
    (alike : (permuted.zip reordered).Perm (parameters.zip arguments)) (path : Path) :
    addressed? permuted reordered path = addressed? parameters arguments path := by
  apply Option.ext
  rintro ⟨kind, value⟩
  rw [addressed?_eq_some_iff counted, addressed?_eq_some_iff countedToo]
  have distinctToo : (permuted.map Prod.fst).Nodup :=
    (reorders.map Prod.fst).nodup_iff.mpr distinct
  constructor
  · exact Addresses.of_perm distinctToo reorders.symm alike.symm
  · exact Addresses.of_perm distinct reorders alike

/-- The kind which is declared for a path. -/
def kind? (parameters : List Parameter) (path : Path) : Option Kind :=
  (resolve? parameters path).map Prod.snd

/-- A path has the same kind in any order of the parameters. -/
theorem kind?_of_perm (distinct : (parameters.map Prod.fst).Nodup)
    (reorders : permuted.Perm parameters) (path : Path) :
    kind? permuted path = kind? parameters path := by
  -- A call whose arguments are all null has the same argument for each parameter.
  let nulls (declared : List Parameter) : List Json := declared.map fun _ => .null
  have counted (declared : List Parameter) : (nulls declared).length = declared.length :=
    List.length_map _
  have paired (declared : List Parameter) :
      declared.zip (nulls declared) = declared.map fun parameter => (parameter, .null) :=
    List.map_prod_left_eq_zip.symm
  have alike : (permuted.zip (nulls permuted)).Perm (parameters.zip (nulls parameters)) := by
    rw [paired, paired]
    exact reorders.map _
  have same := addressed?_of_perm distinct reorders (counted parameters) (counted permuted) alike
  have kinds := congrArg (Option.map Prod.fst) (same path)
  rwa [addressed?, addressed?, Option.map_map, Option.map_map] at kinds

end Paths

/-! ## Declarations -/

/-- Results which are related, or one error which displays a signature of the second's own. -/
inductive Corresponds {α β : Type} (signature : String) (related : α → β → Prop) :
    Except Error α → Except Error β → Prop where
  | ok {first : α} {second : β} (results : related first second) :
      Corresponds signature related (.ok first) (.ok second)
  | error (error : Error) :
      Corresponds signature related (.error error) (.error (error.withSignature signature))

/-- Results go on to correspond if what follows them corresponds. -/
theorem Corresponds.bind {α β γ δ : Type} {signature : String} {related : α → β → Prop}
    {relatedNext : γ → δ → Prop} {first : Except Error α} {second : Except Error β}
    {next : α → Except Error γ} {nextToo : β → Except Error δ}
    (corresponds : Corresponds signature related first second)
    (following : ∀ one other, related one other →
      Corresponds signature relatedNext (next one) (nextToo other)) :
    Corresponds signature relatedNext (first >>= next) (second >>= nextToo) := by
  cases corresponds with
  | ok results => exact following _ _ results
  | error error => exact .error error

/-- What a binder is but for the source of its value. -/
def Binder.outline (binder : Binder) : Nat × Path × BindStrategy :=
  (binder.position, binder.path, binder.strategy)

namespace Query

/-- Queries which are the same but for the sources of their binders. -/
structure Alike (first second : Query) : Prop where
  sql : second.sql = first.sql
  outlines : second.binders.map Binder.outline = first.binders.map Binder.outline

theorem Alike.sameShape {first second : Query} (alike : first.Alike second) :
    first.sameShape second = true := by
  have strategies := congrArg (List.map fun outline => outline.2.2) alike.outlines
  rw [List.map_map, List.map_map] at strategies
  rw [Query.sameShape, Bool.and_eq_true, beq_iff_eq, beq_iff_eq]
  exact ⟨alike.sql.symm, strategies.symm⟩

variable {method : String} {parameters permuted : List Parameter}

/-- A placeholder has the same position, path and strategy, or the same error, if its path has the
same kind. -/
theorem binderFor_corresponds {path : Path}
    (kinds : kind? permuted path = kind? parameters path)
    (reversed : List Char) (position : Nat) :
    Corresponds (signature method permuted) (fun first second => second.outline = first.outline)
      (binderFor method parameters reversed position path)
      (binderFor method permuted reversed position path) := by
  rw [binderFor, binderFor]
  rw [kind?, kind?] at kinds
  cases found : resolve? parameters path with
  | none =>
      rw [found] at kinds
      rw [Option.map_eq_none_iff.mp kinds]
      exact .error (.unresolvedParameter path.text (signature method parameters))
  | some resolved =>
      rw [found] at kinds
      obtain ⟨source, kind⟩ := resolved
      obtain ⟨⟨other, kindToo⟩, foundToo, same⟩ := Option.map_eq_some_iff.mp kinds
      obtain rfl : kind = kindToo := same.symm
      rw [foundToo]
      simp only
      cases BindStrategy.forKind? kind (isArrayContext reversed) with
      | some strategy => exact .ok rfl
      | none => exact .error (.unsupportedArrayType path.text _)

/-- Text with positions and all but the sources of the binders follow from the kinds of paths. -/
theorem positional_corresponds
    (kinds : ∀ path, kind? permuted path = kind? parameters path)
    (reversed : List Char) (count : Nat) (tokens : List Token) :
    Corresponds (signature method permuted)
      (fun first second => second.1 = first.1 ∧
        second.2.map Binder.outline = first.2.map Binder.outline)
      (positional method parameters reversed count tokens)
      (positional method permuted reversed count tokens) := by
  induction tokens generalizing reversed count with
  | nil => exact .ok ⟨rfl, rfl⟩
  | cons token rest inductionHypothesis =>
      cases token with
      | text chars =>
          apply (inductionHypothesis (chars.reverse ++ reversed) count).bind
          rintro ⟨text, binders⟩ ⟨_, others⟩ ⟨rfl, outlines⟩
          exact .ok ⟨rfl, outlines⟩
      | placeholder path =>
          apply (binderFor_corresponds (kinds path) reversed (count + 1)).bind
          intro binder other outline
          apply (inductionHypothesis ('?' :: reversed) (count + 1)).bind
          rintro ⟨text, binders⟩ ⟨_, others⟩ ⟨rfl, outlines⟩
          refine .ok ⟨rfl, ?_⟩
          rw [List.map_cons, List.map_cons, outline, outlines]

/-- Clauses over lists are the same ones if the kinds of paths are. -/
theorem addressesList_congr
    (kinds : ∀ path, kind? permuted path = kind? parameters path) :
    addressesList permuted = addressesList parameters := by
  funext path
  have same := congrArg (Option.any Kind.isList) (kinds path)
  rwa [kind?, kind?, Option.any_map, Option.any_map] at same

/-- Queries are the same but for the sources of their binders if the kinds of paths are. -/
theorem parse_corresponds
    (kinds : ∀ path, kind? permuted path = kind? parameters path)
    (sql : String) :
    Corresponds (signature method permuted) Alike (parse method sql parameters)
      (parse method sql permuted) := by
  rw [parse, parse, addressesList_congr kinds]
  split
  · exact .error (.unsupportedQuery sql)
  · apply (positional_corresponds kinds [] 0 _).bind
    rintro ⟨text, binders⟩ ⟨_, others⟩ ⟨rfl, outlines⟩
    exact .ok ⟨rfl, outlines⟩

/-- What is bound for a binder follows from its outline and from what its path addresses. -/
theorem results_of_parse {sql : String} {query : Query}
    (parsed : parse method sql parameters = .ok query) (arguments : List Json) :
    query.binders.map (·.bind arguments) =
      (query.binders.map Binder.outline).map fun (_, path, strategy) =>
        strategy.bind path.text
          (((addressed? parameters arguments path).map Prod.snd).getD .null) := by
  rw [List.map_map]
  apply List.map_congr_left
  intro binder among
  obtain ⟨kind, resolved, -⟩ := resolved_of_parse parsed binder among
  simp only [Function.comp_apply, Binder.outline, Binder.bind, addressed?, resolved,
    Option.map_some, Option.getD_some]

end Query

namespace Method

variable {parameters permuted : List Parameter}

/-- Methods are the same but for their parameters and the sources of their binders if the kinds of
paths are. -/
theorem declare_corresponds (name : String) (kind : StatementKind) (sql : String)
    (kinds : ∀ path, kind? permuted path = kind? parameters path) :
    Corresponds (NamedSql.signature name permuted)
      (fun first second => first.query.Alike second.query)
      (declare name kind sql parameters) (declare name kind sql permuted) := by
  apply (Query.parse_corresponds kinds sql).bind
  intro query other alike
  exact .ok alike

/-- Methods which are the same but for the sources of their binders bind the same values in calls
in which every path addresses the same. -/
theorem values_of_alike {name sql : String} {kind : StatementKind} {method other : Method}
    (declared : declare name kind sql parameters = .ok method)
    (declaredToo : declare name kind sql permuted = .ok other)
    (alike : method.query.Alike other.query) {arguments reordered : List Json}
    (counted : arguments.length = parameters.length)
    (countedToo : reordered.length = permuted.length)
    (addressed : ∀ path,
      addressed? permuted reordered path = addressed? parameters arguments path) :
    (other.bind reordered).map Statement.values = (method.bind arguments).map Statement.values := by
  have results : other.query.binders.map (·.bind reordered) =
      method.query.binders.map (·.bind arguments) := by
    rw [Query.results_of_parse (parse_of_declare declared),
      Query.results_of_parse (parse_of_declare declaredToo), alike.outlines]
    simp only [addressed]
  have values : other.query.bind reordered = method.query.bind arguments := by
    -- What a traversal comes to follows from the results of its steps.
    have traversed := congrArg (List.mapM id) results
    rwa [List.mapM_map, List.mapM_map] at traversed
  have expected : method.parameters = parameters := by rw [eq_of_declare declared]
  have expectedToo : other.parameters = permuted := by rw [eq_of_declare declaredToo]
  rw [← expected] at counted
  rw [← expectedToo] at countedToo
  rw [bind_of_counted counted, bind_of_counted countedToo, values]
  cases method.query.bind arguments <;> rfl

/-- The order of parameters does not matter.  Whether a method can be declared does not depend on
the order, and neither do the error and the placeholder it is about.  Methods which differ in the
order alone have the same SQL text, with the same placeholders at the same positions and the same
strategies, so that they are of the same shape; and with the same argument for each parameter they
bind the same values, or fail with the same error. -/
theorem declared_in_any_order (name : String) (kind : StatementKind) (sql : String)
    (distinct : (parameters.map Prod.fst).Nodup) (reorders : permuted.Perm parameters) :
    ((∃ other, declare name kind sql permuted = .ok other) ↔
      ∃ method, declare name kind sql parameters = .ok method) ∧
    (∀ error, declare name kind sql parameters = .error error →
      declare name kind sql permuted =
        .error (error.withSignature (NamedSql.signature name permuted))) ∧
    ∀ method other, declare name kind sql parameters = .ok method →
      declare name kind sql permuted = .ok other →
      other.query.sql = method.query.sql ∧
      other.query.binders.map (fun binder => (binder.position, binder.path, binder.strategy)) =
        method.query.binders.map (fun binder => (binder.position, binder.path, binder.strategy)) ∧
      method.query.sameShape other.query = true ∧
      ∀ arguments reordered : List Json, arguments.length = parameters.length →
        reordered.length = permuted.length →
        (permuted.zip reordered).Perm (parameters.zip arguments) →
        (other.bind reordered).map Statement.values =
          (method.bind arguments).map Statement.values := by
  have declares := declare_corresponds name kind sql (kind?_of_perm distinct reorders)
  refine ⟨?_, ?_, ?_⟩
  · generalize declare name kind sql parameters = first at declares
    generalize declare name kind sql permuted = second at declares
    cases declares <;> simp
  · intro error failed
    rw [failed] at declares
    generalize declare name kind sql permuted = second at declares ⊢
    cases declares
    rfl
  · intro method other declared declaredToo
    rw [declared, declaredToo] at declares
    have alike : method.query.Alike other.query := by
      cases declares with
      | ok alike => exact alike
    refine ⟨alike.sql, alike.outlines, alike.sameShape, ?_⟩
    intro arguments reordered counted countedToo paired
    exact values_of_alike declared declaredToo alike counted countedToo
      (addressed?_of_perm distinct reorders counted countedToo paired)

/-- A record, a list and a text are declared in two orders: the binders read other arguments, and
bind the same values. -/
theorem declared_in_any_order_rotated :
    let item : Parameter := ("item", .record "Item" [("is_open", .bool)])
    let ids : Parameter := ("ids", .list .bigInt)
    let user : Parameter := ("user", .text)
    let sql := "UPDATE t SET o = :item.open, p = :user WHERE id IN (:ids) AND q = :user"
    let opened : Json := .obj [("is_open", .bool true)]
    let listed : Json := .arr [.int 1, .int 2]
    ([item, ids, user].map Prod.fst).Nodup ∧ [ids, user, item].Perm [item, ids, user] ∧
    ∃ method other, declare "put" .update sql [item, ids, user] = .ok method ∧
      declare "put" .update sql [ids, user, item] = .ok other ∧
      method.query.binders.map (·.source.argument) = [0, 2, 1, 2] ∧
      other.query.binders.map (·.source.argument) = [2, 1, 0, 1] ∧
      method.query.sameShape other.query = true ∧
      (method.bind [opened, listed, .str "x"]).map Statement.values =
        .ok [.bool true, .text "x", .array (.bigInt [some 1, some 2]), .text "x"] ∧
      (other.bind [listed, .str "x", opened]).map Statement.values =
        (method.bind [opened, listed, .str "x"]).map Statement.values := by
  intro item ids user sql opened listed
  let query (itemAt idsAt userAt : Nat) : Query :=
    ⟨"UPDATE t SET o = ?, p = ? WHERE id =ANY(?) AND q = ?",
      [⟨1, ⟨"item", some "open"⟩, ⟨itemAt, some "is_open"⟩, .scalar .boolean⟩,
        ⟨2, ⟨"user", none⟩, ⟨userAt, none⟩, .scalar .varchar⟩,
        ⟨3, ⟨"ids", none⟩, ⟨idsAt, none⟩, .array .bigInt⟩,
        ⟨4, ⟨"user", none⟩, ⟨userAt, none⟩, .scalar .varchar⟩]⟩
  let method : Method := ⟨"put", .update, [item, ids, user], query 0 1 2⟩
  let other : Method := ⟨"put", .update, [ids, user, item], query 2 0 1⟩
  have distinct : ([item, ids, user].map Prod.fst).Nodup := by decide
  have reorders : [ids, user, item].Perm [item, ids, user] :=
    (List.perm_append_comm : ([ids, user] ++ [item]).Perm ([item] ++ [ids, user]))
  have alike : ([ids, user, item].zip [listed, .str "x", opened]).Perm
      ([item, ids, user].zip [opened, listed, .str "x"]) :=
    (List.perm_append_comm : ([(ids, listed), (user, .str "x")] ++ [(item, opened)]).Perm
      ([(item, opened)] ++ [(ids, listed), (user, .str "x")]))
  have parsed : Query.parse "put" sql [item, ids, user] = .ok (query 0 1 2) := by decide +kernel
  have parsedToo : Query.parse "put" sql [ids, user, item] = .ok (query 2 0 1) := by
    decide +kernel
  have declared : declare "put" .update sql [item, ids, user] = .ok method := by
    rw [declare, parsed]
    rfl
  have declaredToo : declare "put" .update sql [ids, user, item] = .ok other := by
    rw [declare, parsedToo]
    rfl
  obtain ⟨-, -, same⟩ := declared_in_any_order "put" .update sql distinct reorders
  obtain ⟨-, -, shape, values⟩ := same method other declared declaredToo
  exact ⟨distinct, reorders, method, other, declared, declaredToo, rfl, rfl, shape, rfl,
    values _ _ rfl rfl alike⟩

end Method

end NamedSql
