import NamedSql.Proofs.Binding.Types

/-!
# Lists and their elements

A list with a native array is bound item by item, each as a value of the array's type would be.
That is how its elements bind, with one exception: a variant which carries data binds by its
name where it stands alone, but not within a list.
-/

namespace NamedSql

/-- The item which a value becomes in an array: none for a null. -/
def SqlValue.item? : SqlValue → Option SqlValue
  | .null _ => none
  | bound => some bound

/-- The items of an array as values of their own. -/
def SqlArray.values : SqlArray → List (Option SqlValue)
  | .bigInt items => items.map (·.map .bigInt)
  | .integer items => items.map (·.map .integer)
  | .varchar items => items.map (·.map .text)
  | .uuid items => items.map (·.map .uuid)

theorem SqlArray.length_values (items : SqlArray) : items.values.length = items.length := by
  cases items <;> exact List.length_map _

/-- A document is a variant of the kind which carries data. -/
def Kind.CarriesData (kind : Kind) (value : Json) : Prop :=
  (∃ name, kind = .enum name) ∧ ∃ member, value = .obj [member]

/-- Converting the results of a sequence is converting each of them. -/
theorem map_mapM {ε α β γ : Type} (convert : α → Except ε β) (further : β → γ)
    (sources : List α) :
    List.map further <$> sources.mapM convert =
      sources.mapM fun source => further <$> convert source := by
  induction sources with
  | nil => rfl
  | cons source rest inductionHypothesis =>
      rw [List.mapM_cons, List.mapM_cons, ← inductionHypothesis]
      cases convert source with
      | error _ => rfl
      | ok _ => cases rest.mapM convert <;> rfl

namespace BindStrategy

variable {element : Kind} {type : SqlType} {single : BindStrategy} {placeholder : String}
  {value : Json} {values : List Json} {item : Option SqlValue} {arrayContext : Bool}
  {error : Error}

/-! ## Items of arrays -/

/-- The item of an array of the type which a document is bound to. -/
def itemOf (type : SqlType) (placeholder : String) (value : Json) :
    Except Error (Option SqlValue) :=
  SqlValue.item? <$> (scalar type).bind placeholder value

/-- Items are bound as values of the type are, if they are converted as such values are. -/
theorem map_items {α : Type} {convert : Json → Option α} {make : α → SqlValue}
    (converts : ∀ value, scalarValue? type value = (convert value).map make)
    (present : ∀ x, (make x).item? = some (make x)) :
    List.map (Option.map make) <$> items type placeholder convert values =
      values.mapM (itemOf type placeholder) := by
  rw [items, map_mapM]
  congr 1
  funext value
  cases value with
  | null => rfl
  | _ =>
      rw [itemOf, bind_scalar type placeholder (by simp), converts]
      cases convert _ <;> simp [Json.isNull, present]

/-- The items of a native array are bound one by one. -/
theorem values_arrayValue (native : type.hasArrays = true) :
    SqlArray.values <$> arrayValue type placeholder values =
      values.mapM (itemOf type placeholder) := by
  cases type <;> cases native
  all_goals
    rw [arrayValue, Functor.map_map]
    exact map_items (fun _ => rfl) fun _ => rfl

/-- A document which no item is made of is the reason. -/
theorem eq_invalid_of_itemOf (refused : itemOf type placeholder value = .error error) :
    error = .invalidArgument placeholder type.name value.compact := by
  have failed := eq_of_map_error refused
  cases value with
  | null => cases failed
  | _ =>
      rw [bind_scalar type placeholder (by simp)] at failed
      split at failed
      · cases failed
      · cases failed
        rfl

theorem itemOf_eq_ok_iff : itemOf type placeholder value = .ok item ↔
    ∃ bound, (scalar type).bind placeholder value = .ok bound ∧ item = bound.item? := by
  constructor
  · intro converted
    obtain ⟨bound, succeeded, rfl⟩ := exists_of_map_ok converted
    exact ⟨bound, succeeded, rfl⟩
  · rintro ⟨bound, succeeded, rfl⟩
    rw [itemOf, succeeded]
    rfl

/-! ## Items and elements -/

/-- A variant is bound as its text is, unless it carries data. -/
theorem bind_varchar_iff {bound : SqlValue} :
    (scalar .varchar).bind placeholder value = .ok bound ↔
      (¬∃ member, value = .obj [member]) ∧ enum.bind placeholder value = .ok bound := by
  cases value with
  | obj members =>
      rcases members with _ | ⟨⟨name, data⟩, _ | ⟨second, others⟩⟩ <;>
        simp [bind, scalarValue?, Json.toText?]
  | _ => simp [bind, scalarValue?, Json.toText?]

/-- An element is bound to the item of its array, unless it is a variant which carries data. -/
theorem itemOf_eq_ok_iff_element (native : element.arrayType? = some type)
    (chosen : forKind? element arrayContext = some single) :
    itemOf type placeholder value = .ok item ↔ ¬element.CarriesData value ∧
      ∃ bound, single.bind placeholder value = .ok bound ∧ item = bound.item? := by
  rw [itemOf_eq_ok_iff]
  cases element with
  | enum name =>
      cases native
      cases chosen
      simp only [bind_varchar_iff, Kind.CarriesData, and_assoc, exists_and_left]
      simp
  | _ => cases native <;> (cases chosen; simp [Kind.CarriesData])

theorem exists_itemOf_iff (native : element.arrayType? = some type)
    (chosen : forKind? element arrayContext = some single) :
    (∃ item, itemOf type placeholder value = .ok item) ↔ ¬element.CarriesData value ∧
      ∃ bound, single.bind placeholder value = .ok bound := by
  simp only [itemOf_eq_ok_iff_element native chosen, exists_and_left]
  apply and_congr_right
  rintro -
  constructor
  · rintro ⟨_, bound, succeeded, _⟩
    exact ⟨bound, succeeded⟩
  · rintro ⟨bound, succeeded⟩
    exact ⟨bound.item?, bound, succeeded, rfl⟩

/-! ## Lists -/

theorem forKind?_list (native : element.arrayType? = some type) (arrayContext : Bool) :
    forKind? (.list element) arrayContext = some (.array type) := by
  rw [forKind?, native]

/-- Every kind has a strategy, unless it is a list where an array is expected. -/
theorem exists_forKind? (native : element.arrayType? = some type) (arrayContext : Bool) :
    ∃ single, forKind? element arrayContext = some single := by
  cases element <;> cases native <;> exact ⟨_, rfl⟩

/-- A variant which carries data is bound by its name. -/
theorem exists_bind_of_carriesData (chosen : forKind? element arrayContext = some single)
    (carries : element.CarriesData value) (placeholder : String) :
    ∃ name, single.bind placeholder value = .ok (.text name) := by
  obtain ⟨⟨_, rfl⟩, ⟨name, _⟩, rfl⟩ := carries
  cases chosen
  exact ⟨name, rfl⟩

/-- A list is bound, or refused, as the sequence of its items. -/
theorem bind_list (native : type.hasArrays = true) (placeholder : String) (values : List Json) :
    (∃ items, (array type).bind placeholder (.arr values) = .ok (.array items) ∧
        values.mapM (itemOf type placeholder) = .ok items.values) ∨
      ∃ error, (array type).bind placeholder (.arr values) = .error error ∧
        values.mapM (itemOf type placeholder) = .error error := by
  have each : SqlArray.values <$> arrayValue type placeholder values =
      values.mapM (itemOf type placeholder) := values_arrayValue native
  rw [bind]
  cases converted : arrayValue type placeholder values with
  | ok items =>
      rw [converted] at each
      exact .inl ⟨items, rfl, each.symm⟩
  | error error =>
      rw [converted] at each
      exact .inr ⟨error, rfl, each.symm⟩

/-- A list whose elements have native arrays is bound exactly if each element is bound where it
stands alone, and none is a variant which carries data.  The array then has an item for every
element: none where the element is bound as null, and else the value which the element is bound
to.  Otherwise the first element which is not such is quoted by the error.  Variants which carry
data do not fit into lists although they are bound, by their names, where they stand alone. -/
theorem list_binds_as_elements (native : element.arrayType? = some type) (arrayContext : Bool)
    (placeholder : String) (values : List Json) :
    ∃ single, forKind? element arrayContext = some single ∧
      forKind? (.list element) arrayContext = some (.array type) ∧
      ((∃ bound, (array type).bind placeholder (.arr values) = .ok bound) ↔
        ∀ value ∈ values, ¬element.CarriesData value ∧
          ∃ bound, single.bind placeholder value = .ok bound) ∧
      (∀ bound, (array type).bind placeholder (.arr values) = .ok bound →
        ∃ items, bound = .array items ∧ items.length = values.length ∧
          List.Forall₂ (fun value item => ∃ one, single.bind placeholder value = .ok one ∧
            item = one.item?) values items.values) ∧
      (∀ error, (array type).bind placeholder (.arr values) = .error error →
        ∃ before value after, values = before ++ value :: after ∧
          (∀ earlier ∈ before, ¬element.CarriesData earlier ∧
            ∃ bound, single.bind placeholder earlier = .ok bound) ∧
          (element.CarriesData value ∨ ∀ bound, single.bind placeholder value ≠ .ok bound) ∧
          error = .invalidArgument placeholder type.name value.compact) ∧
      ∀ value, element.CarriesData value →
        ∃ name, single.bind placeholder value = .ok (.text name) := by
  obtain ⟨single, chosen⟩ := exists_forKind? native arrayContext
  refine ⟨single, chosen, forKind?_list native arrayContext, ?_, ?_, ?_, ?_⟩
  · simp only [← exists_itemOf_iff native chosen, ← mapM_succeeds_iff]
    rcases bind_list (Kind.hasArrays_of_arrayType? native) placeholder values with
      ⟨items, listed, each⟩ | ⟨error, refused, each⟩
    · exact iff_of_true ⟨_, listed⟩ ⟨_, each⟩
    · rw [refused, each]
      simp
  · intro bound succeeded
    rcases bind_list (Kind.hasArrays_of_arrayType? native) placeholder values with
      ⟨items, listed, each⟩ | ⟨error, refused, each⟩
    · have pairs := forall₂_of_mapM_ok each
      refine ⟨items, Except.ok.inj (succeeded.symm.trans listed), ?_, ?_⟩
      · rw [← items.length_values, pairs.length_eq]
      · exact pairs.imp fun value item converted =>
          ((itemOf_eq_ok_iff_element native chosen).mp converted).2
    · cases refused.symm.trans succeeded
  · intro error failed
    rcases bind_list (Kind.hasArrays_of_arrayType? native) placeholder values with
      ⟨items, listed, each⟩ | ⟨reason, refused, each⟩
    · cases listed.symm.trans failed
    · obtain rfl := Except.error.inj (refused.symm.trans failed)
      obtain ⟨before, value, after, divided, earlier, here⟩ := mapM_eq_error_iff.mp each
      refine ⟨before, value, after, divided, ?_, ?_, eq_invalid_of_itemOf here⟩
      · exact fun other among => (exists_itemOf_iff native chosen).mp (earlier other among)
      · by_contra fits
        rw [not_or, not_forall_not] at fits
        obtain ⟨item, converted⟩ := (exists_itemOf_iff native chosen).mpr fits
        cases converted.symm.trans here
  · exact fun value carries => exists_bind_of_carriesData chosen carries placeholder

/-- A list of variants without data is bound to their names. -/
theorem list_binds_variants :
    Kind.arrayType? (.enum "Status") = some .varchar ∧
      ∃ items, (array .varchar).bind "all" (.arr [.str "Open", .null]) = .ok (.array items) ∧
        items = .varchar [some "Open", none] ∧
        List.Forall₂ (fun value item => ∃ one, enum.bind "all" value = .ok one ∧
          item = one.item?) [.str "Open", .null] items.values := by
  have native : Kind.arrayType? (.enum "Status") = some .varchar := rfl
  obtain ⟨single, chosen, -, -, bound, -⟩ :=
    list_binds_as_elements native false "all" [.str "Open", .null]
  cases chosen
  obtain ⟨items, listed, -, pairs⟩ := bound _ rfl
  cases listed
  exact ⟨native, _, rfl, rfl, pairs⟩

/-- A variant which carries data is bound by its name, but the list of it is refused. -/
theorem variant_lost :
    forKind? (.enum "Status") false = some .enum ∧
      forKind? (.list (.enum "Status")) false = some (.array .varchar) ∧
      enum.bind "all" (.obj [("Custom", .int 42)]) = .ok (.text "Custom") ∧
      (array .varchar).bind "all" (.arr [.obj [("Custom", .int 42)]]) =
        .error (.invalidArgument "all" "varchar" "\x7b\x22Custom\x22:42\x7d") := by
  refine ⟨rfl, rfl, rfl, ?_⟩
  decide +kernel

end BindStrategy

end NamedSql
