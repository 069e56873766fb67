import NamedSql.BindStrategy
import NamedSql.Proofs.Plan
import Mathlib.Data.List.Forall2

/-!
# Types of bound values

A strategy binds values of one type, whatever the documents are.  A strategy which was chosen
for a kind makes arrays only of types which have them, so that nothing but a document is ever
refused by it.
-/

namespace NamedSql

/-- The elements of a native array have a type with arrays. -/
theorem Kind.hasArrays_of_arrayType? {kind : Kind} {type : SqlType}
    (native : kind.arrayType? = some type) : type.hasArrays = true := by
  cases kind <;> cases native <;> rfl

section Except

variable {ε α β : Type} {convert : α → β} {first : Except ε α} {result : β} {error : ε}

/-- A conversion succeeds if what it converts does. -/
theorem exists_of_map_ok (succeeded : convert <$> first = .ok result) :
    ∃ value, first = .ok value ∧ convert value = result := by
  cases first with
  | error _ => cases succeeded
  | ok value => exact ⟨value, rfl, Except.ok.inj succeeded⟩

/-- A conversion has the error of what it converts. -/
theorem eq_of_map_error (failed : convert <$> first = .error error) : first = .error error := by
  cases first with
  | error _ => rw [Except.error.inj failed]
  | ok _ => cases failed

/-- A sequence of conversions has the error of one of them. -/
theorem exists_of_mapM_error {convert : α → Except ε β} {sources : List α}
    (failed : sources.mapM convert = .error error) :
    ∃ source ∈ sources, convert source = .error error := by
  have found := error?_mapM convert sources
  rw [failed] at found
  rcases List.exists_of_findSome?_eq_some found.symm with ⟨source, among, reason⟩
  cases converted : convert source with
  | ok _ =>
      rw [converted] at reason
      cases reason
  | error _ =>
      rw [converted] at reason
      cases reason
      exact ⟨source, among, converted⟩

/-- A sequence of conversions which succeeds converts one by one. -/
theorem forall₂_of_mapM_ok {convert : α → Except ε β} {sources : List α} {targets : List β}
    (succeeded : sources.mapM convert = .ok targets) :
    List.Forall₂ (fun source target => convert source = .ok target) sources targets := by
  induction sources generalizing targets with
  | nil =>
      cases succeeded
      exact .nil
  | cons source sources inductionHypothesis =>
      rw [List.mapM_cons] at succeeded
      cases converted : convert source with
      | error _ =>
          rw [converted] at succeeded
          cases succeeded
      | ok target =>
          rw [converted] at succeeded
          rcases exists_of_map_ok succeeded with ⟨others, rest, rfl⟩
          exact .cons converted (inductionHypothesis rest)

/-- Whatever is no error is a result. -/
theorem error?_eq_none_iff {attempt : Except ε β} :
    error? attempt = none ↔ ∃ target, attempt = .ok target := by
  cases attempt <;> simp [error?]

theorem error?_eq_some_iff {attempt : Except ε β} :
    error? attempt = some error ↔ attempt = .error error := by
  cases attempt <;> simp [error?]

/-- A sequence of conversions succeeds exactly if each of them does. -/
theorem mapM_succeeds_iff {convert : α → Except ε β} {sources : List α} :
    (∃ targets, sources.mapM convert = .ok targets) ↔
      ∀ source ∈ sources, ∃ target, convert source = .ok target := by
  rw [← error?_eq_none_iff, error?_mapM, List.findSome?_eq_none_iff]
  exact forall₂_congr fun source _ => error?_eq_none_iff

/-- A sequence of conversions fails with the error of the first one which does. -/
theorem mapM_eq_error_iff {convert : α → Except ε β} {sources : List α} :
    sources.mapM convert = .error error ↔
      ∃ before source after, sources = before ++ source :: after ∧
        (∀ earlier ∈ before, ∃ target, convert earlier = .ok target) ∧
        convert source = .error error := by
  rw [← error?_eq_some_iff, error?_mapM, List.findSome?_eq_some_iff]
  simp only [error?_eq_some_iff, ← error?_eq_none_iff]
  exact exists_congr fun before => exists_congr fun source => exists_congr fun after =>
    and_congr_right fun _ => and_comm

/-- The results of a sequence of conversions which succeeds. -/
theorem map_eq_of_mapM_ok {convert : α → Except ε β} {sources : List α} {targets : List β}
    (succeeded : sources.mapM convert = .ok targets) :
    sources.map convert = targets.map .ok := by
  rw [← List.forall₂_eq_eq_eq, List.forall₂_map_left_iff, List.forall₂_map_right_iff]
  exact forall₂_of_mapM_ok succeeded

theorem mapM_eq_ok_iff_map {convert : α → Except ε β} {sources : List α} {targets : List β} :
    sources.mapM convert = .ok targets ↔ sources.map convert = targets.map .ok := by
  constructor
  · exact map_eq_of_mapM_ok
  · intro results
    have each : ∀ source ∈ sources, ∃ target, convert source = .ok target := by
      intro source among
      obtain ⟨target, -, same⟩ := List.mem_map.mp (results ▸ List.mem_map_of_mem among)
      exact ⟨target, same.symm⟩
    obtain ⟨found, converted⟩ := mapM_succeeds_iff.mpr each
    rw [converted, List.map_injective_iff.mpr (fun _ _ => Except.ok.inj)
      ((map_eq_of_mapM_ok converted).symm.trans results)]

/-- The results of a sequence of conversions up to the first error, if there is one. -/
theorem mapM_eq_error_iff_map {convert : α → Except ε β} {sources : List α} :
    sources.mapM convert = .error error ↔
      ∃ (earlier : List β) (later : List (Except ε β)),
        sources.map convert = earlier.map .ok ++ .error error :: later := by
  rw [mapM_eq_error_iff]
  constructor
  · rintro ⟨before, source, after, rfl, succeeded, failed⟩
    obtain ⟨targets, converted⟩ := mapM_succeeds_iff.mpr succeeded
    refine ⟨targets, after.map convert, ?_⟩
    rw [List.map_append, mapM_eq_ok_iff_map.mp converted, List.map_cons, failed]
  · rintro ⟨earlier, later, results⟩
    obtain ⟨before, others, rfl, succeeded, remaining⟩ := List.map_eq_append_iff.mp results
    obtain ⟨source, after, rfl, failed, -⟩ := List.map_eq_cons_iff.mp remaining
    exact ⟨before, source, after, rfl,
      mapM_succeeds_iff.mp ⟨earlier, mapM_eq_ok_iff_map.mpr succeeded⟩, failed⟩

end Except

namespace BindStrategy

variable {strategy : BindStrategy} {type element : SqlType} {kind : Kind} {arrayContext : Bool}
  {placeholder : String} {value : Json} {values : List Json} {bound : SqlValue} {error : Error}

/-! ## What a strategy binds -/

/-- The null which a strategy binds. -/
def typedNull : BindStrategy → SqlValue
  | .scalar type => .null type
  | .enum | .json | .jsonArray => .null .varchar
  | .array element => .nullArray element

theorem bind_null (strategy : BindStrategy) (placeholder : String) :
    strategy.bind placeholder .null = .ok strategy.typedNull := by
  cases strategy <;> rfl

theorem type_typedNull (strategy : BindStrategy) : strategy.typedNull.type = strategy.type := by
  cases strategy <;> rfl

theorem bind_scalar (type : SqlType) (placeholder : String) (present : value ≠ .null) :
    (scalar type).bind placeholder value =
      match scalarValue? type value with
      | some bound => .ok bound
      | none => .error (invalid placeholder type.name value) := by
  cases value with
  | null => exact absurd rfl present
  | _ => rfl

/-- A variant is bound by its name. -/
theorem bind_enum (placeholder : String) (present : value ≠ .null) :
    (∃ name, enum.bind placeholder value = .ok (.text name)) ∨
      enum.bind placeholder value = .error (invalid placeholder "enum" value) := by
  cases value with
  | null => exact absurd rfl present
  | str name => exact .inl ⟨name, rfl⟩
  | obj members =>
      rcases members with _ | ⟨⟨name, _⟩, _ | _⟩
      · exact .inr rfl
      · exact .inl ⟨name, rfl⟩
      · exact .inr rfl
  | _ => exact .inr rfl

/-- Whether documents are bound as JSON text. -/
def writesJson : BindStrategy → Bool
  | .json | .jsonArray => true
  | .scalar _ | .enum | .array _ => false

theorem bind_of_writesJson (written : strategy.writesJson = true) (placeholder : String)
    (present : value ≠ .null) : strategy.bind placeholder value = .ok (.text value.compact) := by
  cases value with
  | null => exact absurd rfl present
  | _ => cases strategy <;> cases written <;> rfl

theorem bind_array (element : SqlType) (placeholder : String) (present : value ≠ .null) :
    (∃ values, value = .arr values ∧ (array element).bind placeholder value =
        .array <$> arrayValue element placeholder values) ∨
      (array element).bind placeholder value =
        .error (invalid placeholder element.name value) := by
  cases value with
  | null => exact absurd rfl present
  | arr values => exact .inl ⟨values, rfl, rfl⟩
  | _ => exact .inr rfl

/-! ## Types -/

theorem type_of_scalarValue? (stands : scalarValue? type value = some bound) :
    bound.type = .scalar type := by
  cases type
  all_goals
    rcases Option.map_eq_some_iff.mp stands with ⟨_, -, rfl⟩
    rfl

theorem elementType_of_arrayValue {items : SqlArray}
    (converted : arrayValue type placeholder values = .ok items) : items.elementType = type := by
  unfold arrayValue at converted
  split at converted
  case h_5 => cases converted
  all_goals
    rcases exists_of_map_ok converted with ⟨_, -, rfl⟩
    rfl

/-- The type of a bound value is that of its strategy, also if the value is null. -/
theorem type_of_bind (succeeded : strategy.bind placeholder value = .ok bound) :
    bound.type = strategy.type := by
  by_cases absent : value = .null
  · rw [absent, bind_null] at succeeded
    cases succeeded
    exact strategy.type_typedNull
  · cases strategy with
    | scalar type =>
        rw [bind_scalar type placeholder absent] at succeeded
        split at succeeded
        next stands =>
          cases succeeded
          exact type_of_scalarValue? stands
        next => cases succeeded
    | enum =>
        rcases bind_enum placeholder absent with ⟨_, named⟩ | refused
        · cases named.symm.trans succeeded
          rfl
        · cases refused.symm.trans succeeded
    | json | jsonArray =>
        cases (bind_of_writesJson rfl placeholder absent).symm.trans succeeded
        rfl
    | array element =>
        rcases bind_array element placeholder absent with ⟨_, -, listed⟩ | refused
        · rcases exists_of_map_ok (listed.symm.trans succeeded) with ⟨items, converted, rfl⟩
          exact congrArg ParameterType.array (elementType_of_arrayValue converted)
        · cases refused.symm.trans succeeded

/-! ## Refusals -/

/-- Whether an error is the refusal of a document. -/
def Refuses (placeholder : String) (error : Error) : Prop :=
  ∃ expected refused, error = invalid placeholder expected refused

theorem refuses_of_items {α : Type} {convert : Json → Option α}
    (failed : items type placeholder convert values = .error error) :
    Refuses placeholder error := by
  rcases exists_of_mapM_error failed with ⟨refused, -, reason⟩
  split at reason
  · cases reason
  · split at reason
    · cases reason
    · exact ⟨type.name, refused, (Except.error.inj reason).symm⟩

theorem refuses_of_arrayValue (native : type.hasArrays = true)
    (failed : arrayValue type placeholder values = .error error) :
    Refuses placeholder error := by
  cases type <;> cases native <;> exact refuses_of_items (eq_of_map_error failed)

/-- A strategy whose arrays are native refuses documents, and nothing else. -/
theorem refuses_of_bind (native : ∀ element, strategy = .array element → element.hasArrays = true)
    (failed : strategy.bind placeholder value = .error error) : Refuses placeholder error := by
  by_cases absent : value = .null
  · rw [absent, bind_null] at failed
    cases failed
  · cases strategy with
    | scalar type =>
        rw [bind_scalar type placeholder absent] at failed
        split at failed
        · cases failed
        · exact ⟨type.name, value, (Except.error.inj failed).symm⟩
    | enum =>
        rcases bind_enum placeholder absent with ⟨_, named⟩ | refused
        · cases named.symm.trans failed
        · exact ⟨"enum", value, (Except.error.inj (refused.symm.trans failed)).symm⟩
    | json | jsonArray =>
        cases (bind_of_writesJson rfl placeholder absent).symm.trans failed
    | array element =>
        rcases bind_array element placeholder absent with ⟨values, -, listed⟩ | refused
        · exact refuses_of_arrayValue (native element rfl)
            (eq_of_map_error (listed.symm.trans failed))
        · exact ⟨element.name, value, (Except.error.inj (refused.symm.trans failed)).symm⟩

/-- A strategy which was chosen for a kind makes native arrays only. -/
theorem hasArrays_of_forKind? (chosen : forKind? kind arrayContext = some (.array element)) :
    element.hasArrays = true := by
  cases kind with
  | list kind =>
      rw [forKind?] at chosen
      split at chosen
      next native =>
        cases chosen
        exact Kind.hasArrays_of_arrayType? native
      next => split at chosen <;> cases chosen
  | _ => cases chosen

end BindStrategy

end NamedSql
