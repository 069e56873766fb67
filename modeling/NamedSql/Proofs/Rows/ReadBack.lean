import NamedSql.Proofs.Json.RoundTrip
import NamedSql.Proofs.Rows.Responses

/-!
# Reading back what was bound

A document is bound as a value of its kind, the database returns the value in a column, and the
column is read as a document again.  Kinds with values of their own are read as they are; the
kinds whose documents are bound as text are just those whose text is parsed.
-/

namespace NamedSql

/-! ## Kinds -/

/-- The kinds whose documents are the same after they were bound and read. -/
inductive Kind.Faithful : Kind → Prop where
  | bool : Faithful .bool
  | smallInt : Faithful .smallInt
  | integer : Faithful .integer
  | bigInt : Faithful .bigInt
  | text : Faithful .text
  | bigInts : Faithful (.list .bigInt)
  | integers : Faithful (.list .integer)
  | texts : Faithful (.list .text)
  | jsonShaped {kind : Kind} (shaped : kind.isJsonShaped = true) : Faithful kind

/-- Exactly the documents of JSON-shaped kinds are bound as text. -/
theorem BindStrategy.writesJson_iff (kind : Kind) :
    (forKind? kind false).any writesJson = true ↔ kind.isJsonShaped = true := by
  cases kind with
  | list element =>
      rw [forKind?, Kind.isJsonShaped]
      cases element.arrayType? <;> simp [writesJson]
  | _ => simp [forKind?, writesJson, Kind.isJsonShaped]

namespace Json

/-! ## Documents with values of their own -/

variable {value : Json} {low high n : Int}

theorem eq_int_of_toIntIn? (fits : value.toIntIn? low high = some n) :
    value = .int n ∧ low ≤ n ∧ n ≤ high := by
  cases value with
  | int m =>
      simp only [toIntIn?, Option.ite_none_right_eq_some, Option.some.injEq] at fits
      obtain ⟨bounds, rfl⟩ := fits
      exact ⟨rfl, bounds⟩
  | _ => cases fits

/-- An integer of a fixed width which a document fits is the document. -/
theorem eq_int_of_map {α : Type} {ofInt : Int → α} {toInt : α → Int} {item : α}
    (inverse : ∀ n, low ≤ n → n ≤ high → toInt (ofInt n) = n)
    (fits : (value.toIntIn? low high).map ofInt = some item) : value = .int (toInt item) := by
  obtain ⟨n, inside, rfl⟩ := Option.map_eq_some_iff.mp fits
  obtain ⟨rfl, atLeast, atMost⟩ := eq_int_of_toIntIn? inside
  rw [inverse n atLeast atMost]

theorem eq_int_of_toInt16? {item : Int16} (fits : value.toInt16? = some item) :
    value = .int item.toInt :=
  eq_int_of_map (fun _ _ _ => Int16.toInt_ofInt_of_le (by omega) (by omega)) fits

theorem eq_int_of_toInt32? {item : Int32} (fits : value.toInt32? = some item) :
    value = .int item.toInt :=
  eq_int_of_map (fun _ _ _ => Int32.toInt_ofInt_of_le (by omega) (by omega)) fits

theorem eq_int_of_toInt64? {item : Int64} (fits : value.toInt64? = some item) :
    value = .int item.toInt :=
  eq_int_of_map (fun _ _ _ => Int64.toInt_ofInt_of_le (by omega) (by omega)) fits

theorem eq_str_of_toText? {text : String} (found : value.toText? = some text) :
    value = .str text := by
  cases value <;> cases found
  rfl

theorem eq_bool_of_toBool? {truth : Bool} (found : value.toBool? = some truth) :
    value = .bool truth := by
  cases value <;> cases found
  rfl

theorem eq_null_of_isNull (null : value.isNull = true) : value = .null := by
  cases value <;> cases null
  rfl

end Json

namespace Postgres.Datum

/-! ## Data of bound values -/

open BindStrategy

variable {strategy : BindStrategy} {type : SqlType} {kind : Kind} {placeholder : String}
  {value : Json} {values : List Json} {bound : SqlValue}

/-- Items of an array are read as what they were converted from, null as null. -/
theorem listJson_of_items {α : Type} {convert : Json → Option α} {toJson : α → Json}
    {found : List (Option α)}
    (faithful : ∀ {value item}, convert value = some item → value = toJson item)
    (converted : items type placeholder convert values = .ok found) :
    listJson toJson found = .arr values := by
  have each := forall₂_of_mapM_ok converted
  have same : found.map (itemJson toJson) = values := by
    clear converted
    induction each with
    | nil => rfl
    | cons here _ inductionHypothesis =>
        rw [List.map_cons, inductionHypothesis]
        congr 1
        split at here
        next null =>
          cases here
          exact (Json.eq_null_of_isNull null).symm
        next =>
          split at here
          next item stands =>
            cases here
            exact (faithful stands).symm
          next => cases here
  rw [listJson, same]

/-- Values of these scalar types are read as the documents which they stand for. -/
theorem json?_of_scalarValue?
    (faithful : type ∈ [.boolean, .smallInt, .integer, .bigInt, .varchar])
    (stands : scalarValue? type value = some bound) : (ofValue bound).json? = some value := by
  cases type
  all_goals
    rcases Option.map_eq_some_iff.mp stands with ⟨found, stood, rfl⟩
  case boolean => rw [Json.eq_bool_of_toBool? stood]; rfl
  case smallInt => rw [Json.eq_int_of_toInt16? stood]; rfl
  case integer => rw [Json.eq_int_of_toInt32? stood]; rfl
  case bigInt => rw [Json.eq_int_of_toInt64? stood]; rfl
  case varchar => rw [Json.eq_str_of_toText? stood]; rfl
  all_goals simp at faithful

/-- Arrays of these types are read as the lists which they were made of. -/
theorem json?_of_arrayValue {items : SqlArray} (faithful : type ∈ [.bigInt, .integer, .varchar])
    (converted : arrayValue type placeholder values = .ok items) :
    (ofValue (.array items)).json? = some (.arr values) := by
  cases type
  case bigInt =>
    rcases exists_of_map_ok converted with ⟨found, each, rfl⟩
    exact congrArg some (listJson_of_items Json.eq_int_of_toInt64? each)
  case integer =>
    rcases exists_of_map_ok converted with ⟨found, each, rfl⟩
    exact congrArg some (listJson_of_items Json.eq_int_of_toInt32? each)
  case varchar =>
    rcases exists_of_map_ok converted with ⟨found, each, rfl⟩
    exact congrArg some (listJson_of_items Json.eq_str_of_toText? each)
  all_goals simp at faithful

/-- The same data in a column of characters of varying length. -/
def varying : Datum → Datum
  | ⟨.text, value⟩ => ⟨.varchar, value⟩
  | ⟨.textArray, value⟩ => ⟨.varcharArray, value⟩
  | datum => datum

theorem json?_varying (datum : Datum) : datum.varying.json? = datum.json? := by
  rcases datum with ⟨type, _ | value⟩ <;> cases type <;> rfl

/-- A datum which the database returns for a bound value: in a column of the type which the value
was sent as, which may hold text as characters of varying length. -/
def Returns (bound : SqlValue) (datum : Datum) : Prop :=
  datum = ofValue bound ∨ datum = (ofValue bound).varying

theorem Returns.json? {datum : Datum} (returned : Returns bound datum) :
    datum.json? = (ofValue bound).json? := by
  rcases returned with rfl | rfl
  · rfl
  · exact json?_varying _

theorem json?_typedNull (strategy : BindStrategy) :
    (ofValue strategy.typedNull).json? = some .null := by
  cases strategy <;> rfl

end Postgres.Datum

namespace Rows

open Postgres
open Postgres.Response (Holds Starts)

variable {kind : Kind} {strategy : BindStrategy} {placeholder : String} {value : Json}
  {bound : SqlValue} {datum : Datum}

theorem restore?_of_not_shaped (unshaped : kind.isJsonShaped = false) (value : Json) :
    restore? kind value = some value := by
  cases value with
  | str text => rw [restore?, unshaped]; rfl
  | _ => rfl

/-- Values of a kind which is not JSON-shaped are read as they were bound. -/
theorem json?_of_faithful (faithful : kind.Faithful) (unshaped : kind.isJsonShaped = false)
    (chosen : BindStrategy.forKind? kind false = some strategy)
    (succeeded : strategy.bind placeholder value = .ok bound) (present : value ≠ .null) :
    (Datum.ofValue bound).json? = some value := by
  have scalar {type : SqlType} (among : type ∈ [.boolean, .smallInt, .integer, .bigInt, .varchar])
      (succeeded : (BindStrategy.scalar type).bind placeholder value = .ok bound) :
      (Datum.ofValue bound).json? = some value := by
    rw [BindStrategy.bind_scalar type placeholder present] at succeeded
    split at succeeded
    next stands =>
      cases succeeded
      exact Datum.json?_of_scalarValue? among stands
    next => cases succeeded
  have array {type : SqlType} (among : type ∈ [.bigInt, .integer, .varchar])
      (succeeded : (BindStrategy.array type).bind placeholder value = .ok bound) :
      (Datum.ofValue bound).json? = some value := by
    rcases BindStrategy.bind_array type placeholder present with ⟨values, rfl, listed⟩ | refused
    · rcases exists_of_map_ok (listed.symm.trans succeeded) with ⟨items, converted, rfl⟩
      exact Datum.json?_of_arrayValue among converted
    · cases refused.symm.trans succeeded
  cases faithful with
  | jsonShaped shaped => cases unshaped.symm.trans shaped
  | bool | smallInt | integer | bigInt | text =>
      cases chosen
      exact scalar (by decide) succeeded
  | bigInts | integers | texts =>
      cases chosen
      exact array (by decide) succeeded

/-- A document is restored from the column which its value is returned in. -/
theorem restored_of_bind (faithful : kind.Faithful)
    (chosen : BindStrategy.forKind? kind false = some strategy)
    (succeeded : strategy.bind placeholder value = .ok bound)
    (readable : kind.isJsonShaped = true → value ≠ .null → Json.parse? value.compact = some value)
    (returned : Datum.Returns bound datum) :
    ∃ received, datum.json? = some received ∧ restore? kind received = some value := by
  rw [returned.json?]
  by_cases absent : value = .null
  · rw [absent, BindStrategy.bind_null] at succeeded
    cases succeeded
    subst absent
    exact ⟨.null, Datum.json?_typedNull strategy, rfl⟩
  · cases shaped : kind.isJsonShaped with
    | false =>
        exact ⟨value, json?_of_faithful faithful shaped chosen succeeded absent,
          restore?_of_not_shaped shaped value⟩
    | true =>
        have written := (BindStrategy.writesJson_iff kind).mpr shaped
        rw [chosen] at written
        cases (BindStrategy.bind_of_writesJson written placeholder absent).symm.trans succeeded
        refine ⟨.str value.compact, rfl, ?_⟩
        rw [restore?, if_pos shaped]
        exact readable shaped absent

/-- A datum in which the database returns what is bound for a document. -/
def Stored (strategy : BindStrategy) (value : Json) (datum : Datum) : Prop :=
  ∃ placeholder bound, strategy.bind placeholder value = .ok bound ∧ Datum.Returns bound datum

/-- The documents of a column are restored from the data which they are returned in. -/
theorem restored_of_stored (faithful : kind.Faithful)
    (chosen : BindStrategy.forKind? kind false = some strategy) {values : List Json}
    {data : List Datum} (stored : List.Forall₂ (Stored strategy) values data)
    (readable : ∀ value ∈ values, kind.isJsonShaped = true → value ≠ .null →
      Json.parse? value.compact = some value) :
    ∃ received : List Json, data.map Datum.json? = received.map some ∧
      received.map (restore? kind) = values.map some := by
  rw [← map_bind_eq_iff, ← List.forall₂_eq_eq_eq, List.forall₂_map_left_iff,
    List.forall₂_map_right_iff]
  refine ((List.forall₂_and_left _ _).mpr ⟨readable, stored⟩).flip.imp ?_
  rintro datum value ⟨readable, placeholder, bound, succeeded, returned⟩
  obtain ⟨received, document, restored⟩ :=
    restored_of_bind faithful chosen succeeded readable returned
  rw [document]
  exact restored

/-- Reading a response in which the database returns what was bound for documents of a faithful
kind hands over just these documents, null included, one from each row: both as the property of a
record, whatever the other columns hold, and as results of their own.  The text of a JSON-shaped
document only has to denote the document, as the text of every document does which is not nested
too deep; and exactly the kinds which are bound as JSON text are parsed. -/
theorem read_back (faithful : kind.Faithful)
    (chosen : BindStrategy.forKind? kind false = some strategy) {values : List Json}
    {data : List Datum} (stored : List.Forall₂ (Stored strategy) values data)
    (readable : ∀ value ∈ values, kind.isJsonShaped = true → value ≠ .null →
      Json.parse? value.compact = some value) :
    (∀ (record : String) {properties : List Property} {name column : String}
        {before after : List String} {response : Response},
      matchColumn? properties column = some (name, kind) →
      response.columns = before ++ column :: after →
      List.Forall₂ (Holds properties name before after) data response.rows →
      ∃ output, response.output = .ok output ∧
        HandsOverProperty record properties name output values) ∧
    ((∀ name properties, kind ≠ .record name properties) →
      ∀ {response : Response}, List.Forall₂ Starts data response.rows →
        ∃ output, response.output = .ok output ∧ HandsOver kind output values) ∧
    (∀ kind, (BindStrategy.forKind? kind false).any BindStrategy.writesJson = true ↔
      kind.isJsonShaped = true) ∧
    (∀ value : Json, value.Expressible → value.raw.depth ≤ Json.depthLimit →
      Json.parse? value.compact = some value) := by
  obtain ⟨received, documents, restored⟩ := restored_of_stored faithful chosen stored readable
  constructor
  · intro record properties name column before after response matched columns holds
    obtain ⟨output, found, handsOver⟩ :=
      Response.exists_output_of_holds record matched columns holds documents
    exact ⟨output, found, (handsOver values).mpr restored⟩
  · constructor
    · intro noRecord response starts
      obtain ⟨output, found, handsOver⟩ :=
        Response.exists_output_of_starts noRecord starts documents
      exact ⟨output, found, (handsOver values).mpr restored⟩
    · constructor
      · exact BindStrategy.writesJson_iff
      · exact fun _ expressible shallow => Json.parse?_compact expressible shallow

/-- A list of booleans, which has no native array, and a null are read back from a column of
characters of varying length next to the identifiers of their rows. -/
theorem read_back_flags : ∃ value : Json, value = .arr [.bool true, .null] ∧
    (∃ output, Response.output ⟨2, ["id", "flags"],
        [[.ofValue (.bigInt 5), ⟨.varchar, some value.compact⟩],
          [.ofValue (.bigInt 6), ⟨.varchar, none⟩]]⟩ = .ok output ∧
      read (.record "Item" [("id", .bigInt), ("flags", .list .bool)]) (·.get? "flags") output =
        .ok [value, .null]) ∧
    ∃ output, Response.output ⟨2, ["flags"],
        [[⟨.varchar, some value.compact⟩], [⟨.varchar, none⟩]]⟩ = .ok output ∧
      read (.list .bool) some output = .ok [value, .null] := by
  have expressible : Json.Expressible (.arr [.bool true, .null]) := by
    apply Json.Expressible.arr
    intro item among
    rcases List.mem_pair.mp among with rfl | rfl
    · exact .bool true
    · exact .null
  have readable : ∀ value ∈ [Json.arr [.bool true, .null], .null],
      (Kind.list .bool).isJsonShaped = true → value ≠ .null →
        Json.parse? value.compact = some value := by
    intro value among _ notNull
    rcases List.mem_pair.mp among with rfl | rfl
    · exact Json.parse?_compact expressible (by decide)
    · exact absurd rfl notNull
  have stored : List.Forall₂ (Stored .jsonArray) [Json.arr [.bool true, .null], .null]
      [⟨.varchar, some (Json.compact (.arr [.bool true, .null]))⟩, ⟨.varchar, none⟩] :=
    .cons ⟨":flags", _, rfl, .inr rfl⟩ (.cons ⟨":flags", _, rfl, .inr rfl⟩ .nil)
  have faithful : Kind.Faithful (.list .bool) := .jsonShaped rfl
  have chosen : BindStrategy.forKind? (.list .bool) false = some .jsonArray := rfl
  obtain ⟨property, result, -⟩ := read_back faithful chosen stored readable
  refine ⟨_, rfl, ?_, ?_⟩
  · have left (id : Json) :
        Beside [("id", .bigInt), ("flags", .list .bool)] "flags" ["id"] [id] := by
      constructor
      · rfl
      · cases id <;> rfl
      · intro column among property matched
        rw [List.mem_singleton.mp among] at matched
        cases matched
        decide
    have right : Beside [("id", .bigInt), ("flags", .list .bool)] "flags" [] [] :=
      ⟨rfl, rfl, nofun⟩
    have matched : matchColumn? [("id", .bigInt), ("flags", .list .bool)] "flags" =
        some ("flags", .list .bool) := rfl
    have holds (id : Int64) (datum : Datum) :
        Holds [("id", .bigInt), ("flags", .list .bool)] "flags" ["id"] [] datum
          ([.ofValue (.bigInt id)] ++ [datum]) :=
      .between rfl rfl (left _) right
    obtain ⟨output, found, handsOver⟩ := @property "Item" _ _ _ ["id"] []
      ⟨2, ["id", "flags"], _⟩ matched rfl (.cons (holds 5 _) (.cons (holds 6 _) .nil))
    exact ⟨output, found, handsOver.read_get?⟩
  · obtain ⟨output, found, handsOver⟩ := @result nofun
      ⟨2, ["flags"], [[_], [_]]⟩ (.cons (.first rfl) (.cons (.first rfl) .nil))
    exact ⟨output, found, handsOver.read_some⟩

end Rows

end NamedSql
