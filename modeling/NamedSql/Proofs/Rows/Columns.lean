import NamedSql.Proofs.Rows.Reading
import Mathlib.Data.List.Nodup
import Mathlib.Data.List.Perm.Basic
import Mathlib.Logic.Relation

/-!
# Order of columns

The document of a row depends on the values of the columns which match a property, and not on
the order of columns or on columns without a property.
-/

namespace NamedSql

/-! ## Order of members -/

namespace Json

variable {name other : String} {value otherValue : Json} {members : List (String × Json)}

/-- Members of different names can be inserted in any order. -/
theorem insert_comm (different : name ≠ other) :
    insert name value (insert other otherValue members) =
      insert other otherValue (insert name value members) := by
  -- Both names are compared with each other and with the name of the first member.
  induction members with
  | nil => grind [insert]
  | cons member rest inductionHypothesis => grind [insert]

/-- The order of members does not matter to an object if each name has one value. -/
theorem object_perm {first second : List (String × Json)} (perm : first.Perm second)
    (unique : ∀ left ∈ first, ∀ right ∈ first, left.1 = right.1 → left = right) :
    object first = object second := by
  rw [object, object]
  refine congrArg Json.obj (perm.foldl_eq' (fun left amongLeft right amongRight members => ?_) [])
  by_cases same : left.1 = right.1
  · rw [unique left amongLeft right amongRight same]
  · exact insert_comm fun equal => same equal.symm

end Json

namespace Rows

/-! ## Lists -/

section Lists

variable {α β γ : Type}

/-- The first positions, in order, give the first items. -/
theorem filterMap_getElem?_range (items : List α) (count : Nat) :
    (List.range count).filterMap (items[·]?) = items.take count := by
  induction items generalizing count with
  | nil => simp
  | cons item items inductionHypothesis =>
      cases count with
      | zero => rfl
      | succ count =>
          rw [List.range_succ_eq_map, List.take_succ_cons, ← inductionHypothesis count]
          simp only [List.filterMap_cons, List.getElem?_cons_zero, List.filterMap_map]
          rfl

theorem zip_filterMap_getElem? {order : List Nat} {items : List α} {values rest : List β}
    (within : ∀ position ∈ order, position < items.length) (wide : items.length ≤ values.length) :
    (order.filterMap (items[·]?)).zip (order.filterMap (values[·]?) ++ rest) =
      order.filterMap ((items.zip values)[·]?) := by
  induction order with
  | nil => rfl
  | cons position order inductionHypothesis =>
      obtain ⟨inItems, later⟩ := List.forall_mem_cons.mp within
      have inValues := Nat.lt_of_lt_of_le inItems wide
      have item := List.getElem?_eq_getElem inItems
      have value := List.getElem?_eq_getElem inValues
      have both : (items.zip values)[position]? = some (items[position], values[position]) :=
        List.getElem?_zip_eq_some.mpr ⟨item, value⟩
      rw [List.filterMap_cons_some item, List.filterMap_cons_some value,
        List.filterMap_cons_some both, List.cons_append, List.zip_cons_cons,
        inductionHypothesis later]

theorem forall₂_trans {R : α → β → Prop} {S : β → γ → Prop} {T : α → γ → Prop}
    (combine : ∀ a b c, R a b → S b c → T a c) {items : List α} {others : List β}
    {further : List γ} (left : List.Forall₂ R items others)
    (right : List.Forall₂ S others further) : List.Forall₂ T items further := by
  induction left generalizing further with
  | nil =>
      cases right
      exact .nil
  | cons here _ inductionHypothesis =>
      cases right with
      | cons there later => exact .cons (combine _ _ _ here there) (inductionHypothesis later)

theorem forall₂_zipWith {f : α → β → α} {items : List α} {values : List β}
    (counted : values.length = items.length) :
    List.Forall₂ (fun item result => ∃ value, result = f item value) items
      (List.zipWith f items values) := by
  induction items generalizing values with
  | nil => exact .nil
  | cons item items inductionHypothesis =>
      cases values with
      | nil => cases counted
      | cons value values =>
          exact .cons ⟨value, rfl⟩ (inductionHypothesis (Nat.succ.inj counted))

end Lists

/-! ## Values of matched columns -/

section Matched

variable {properties : List Property} {column : String} {columns others : List String}
  {row otherRow : List Json} {value : Json}

/-- The properties which columns match, each with the value of the column. -/
def matched (properties : List Property) (columns : List String) (row : List Json) :
    List (Property × Json) :=
  (columns.zip row).filterMap fun item => (matchColumn? properties item.1).map (·, item.2)

/-- The member for a property with a value. -/
def member? (item : Property × Json) : Option (String × Json) :=
  (restore? item.1.2 item.2).map (item.1.1, ·)

theorem members?_eq_mapM :
    members? (columns.map (matchColumn? properties)) row =
      (matched properties columns row).mapM member? := by
  induction columns generalizing row with
  | nil => rfl
  | cons column columns inductionHypothesis =>
      cases row with
      | nil => simp [members?, matched]
      | cons value row =>
          rw [List.map_cons, matched, List.zip_cons_cons]
          cases found : matchColumn? properties column with
          | none =>
              rw [List.filterMap_cons_none (by rw [found]; rfl)]
              exact inductionHypothesis
          | some property =>
              rw [List.filterMap_cons_some (by rw [found]; rfl), List.mapM_cons, members?,
                inductionHypothesis, member?]
              cases restore? property.2 value <;> rfl

/-- Every column has its own property, if any. -/
def Distinct (properties : List Property) (columns : List String) : Prop :=
  columns.Pairwise fun first second => ∀ property,
    matchColumn? properties first = some property → matchColumn? properties second ≠ some property

theorem find?_of_matchColumn? {property : Property}
    (matched : matchColumn? properties column = some property) :
    Property.find? properties property.1 = some property := by
  have named {name : String} (found : Property.find? properties name = some property) :
      Property.find? properties property.1 = some property := by
    have same := List.find?_some found
    rwa [beq_iff_eq.mp same]
  rw [matchColumn?_eq_or, Option.or_eq_some_iff, Option.or_eq_some_iff] at matched
  rcases matched with found | ⟨-, found | ⟨-, found⟩⟩
  all_goals exact named found

/-- Distinct columns have values of properties with different names. -/
theorem nodup_names_matched (wide : columns.length ≤ row.length)
    (distinct : Distinct properties columns) :
    ((matched properties columns row).map fun item => item.1.1).Nodup := by
  have columnsOfRow : (columns.zip row).map Prod.fst = columns := List.map_fst_zip wide
  rw [Distinct, ← columnsOfRow, List.pairwise_map] at distinct
  rw [List.Nodup, List.pairwise_map, matched, List.pairwise_filterMap]
  refine distinct.imp fun different item found otherItem otherFound sameName => ?_
  obtain ⟨property, isProperty, rfl⟩ := Option.map_eq_some_iff.mp found
  obtain ⟨other, isOther, rfl⟩ := Option.map_eq_some_iff.mp otherFound
  have same := find?_of_matchColumn? isProperty
  rw [sameName, find?_of_matchColumn? isOther] at same
  cases same
  exact different _ isProperty isOther

theorem names_of_mapM {items : List (Property × Json)} {members : List (String × Json)}
    (restored : items.mapM member? = some members) :
    members.map Prod.fst = items.map fun item => item.1.1 := by
  have pairs : List.Forall₂ (fun member item => member.1 = item.1.1) members items := by
    refine (mapM_eq_some_iff.mp restored).flip.imp fun member item restored => ?_
    obtain ⟨_, -, rfl⟩ := Option.map_eq_some_iff.mp restored
    rfl
  rw [← List.forall₂_eq_eq_eq, List.forall₂_map_left_iff, List.forall₂_map_right_iff]
  exact pairs

/-- A row has the same document if the same properties have the same values. -/
theorem document?_perm (record : String) (wide : columns.length ≤ row.length)
    (distinct : Distinct properties columns)
    (perm : (matched properties columns row).Perm (matched properties others otherRow)) :
    document? (.record record properties) columns row =
      document? (.record record properties) others otherRow := by
  have restoredPerm {items otherItems : List (Property × Json)} (perm : items.Perm otherItems)
      {members : List (String × Json)} (restored : items.mapM member? = some members) :
      ∃ otherMembers, otherItems.mapM member? = some otherMembers ∧ otherMembers.Perm members := by
    obtain ⟨otherMembers, pairs, permuted⟩ :=
      List.perm_comp_forall₂ perm.symm (mapM_eq_some_iff.mp restored)
    exact ⟨otherMembers, mapM_eq_some_iff.mpr pairs, permuted⟩
  rw [document?, document?, members?_eq_mapM, members?_eq_mapM]
  cases restored : (matched properties columns row).mapM member? with
  | none =>
    cases otherRestored : (matched properties others otherRow).mapM member? with
    | none => rfl
    | some otherMembers =>
        obtain ⟨members, found, -⟩ := restoredPerm perm.symm otherRestored
        cases restored.symm.trans found
  | some members =>
      obtain ⟨otherMembers, found, permuted⟩ := restoredPerm perm restored
      have names : (members.map Prod.fst).Nodup := by
        rw [names_of_mapM restored]
        exact nodup_names_matched wide distinct
      rw [found, Option.map_some, Option.map_some,
        Json.object_perm permuted.symm fun _ among _ amongToo =>
          List.inj_on_of_nodup_map names among amongToo]

end Matched

/-! ## Rearranging columns -/

/-- Items in the order of the given positions, and any items after these. -/
def reorder {α : Type} (order : List Nat) (items : List α) : List α :=
  order.filterMap (items[·]?) ++ items.drop order.length

/-- The output with its columns, and the values of every row, in another order. -/
def reorderColumns (order : List Nat) (output : Output) : Output :=
  { output with
    columns := reorder order output.columns
    rows := output.rows.map (reorder order) }

/-- The output with another column, which has one value for each row. -/
def insertColumn (place : Nat) (column : String) (values : List Json) (output : Output) : Output :=
  { output with
    columns := output.columns.insertIdx place column
    rows := List.zipWith (fun row value => row.insertIdx place value) output.rows values }

/-- Rearranging the columns of an output for a record: they change places, or a column is put in
which matches no property. -/
inductive Rearranges (properties : List Property) : Output → Output → Prop where
  | reorder (output : Output) {order : List Nat}
      (positions : order.Perm (List.range output.columns.length)) :
      Rearranges properties output (reorderColumns order output)
  | insert (output : Output) {place : Nat} {column : String} {values : List Json}
      (within : place ≤ output.columns.length) (counted : values.length = output.rows.length)
      (unmatched : matchColumn? properties column = none) :
      Rearranges properties output (insertColumn place column values output)

/-- Every row has a value for every column. -/
def Wide (output : Output) : Prop :=
  ∀ row ∈ output.rows, output.columns.length ≤ row.length

instance (output : Output) : Decidable (Wide output) :=
  inferInstanceAs (Decidable (∀ row ∈ output.rows, output.columns.length ≤ row.length))

section Rearranging

variable {α β : Type} {properties : List Property} {columns : List String} {row : List Json}

theorem reorder_perm {order : List Nat} {count : Nat} (positions : order.Perm (List.range count))
    (items : List α) : (reorder order items).Perm items := by
  have taken := positions.filterMap (items[·]?)
  rw [filterMap_getElem?_range] at taken
  rw [reorder, positions.length_eq, List.length_range]
  exact (taken.append_right _).trans (.of_eq (List.take_append_drop count items))

/-- Values stay with their items when both are put in another order. -/
theorem zip_reorder_perm {order : List Nat} {items : List α} {values : List β}
    (positions : order.Perm (List.range items.length)) (wide : items.length ≤ values.length) :
    ((reorder order items).zip (reorder order values)).Perm (items.zip values) := by
  have whole : items.length = order.length := by rw [positions.length_eq, List.length_range]
  have within : ∀ position ∈ order, position < items.length :=
    fun position among => List.mem_range.mp (positions.subset among)
  have zipped : (items.zip values).length = items.length := by
    rw [List.length_zip, Nat.min_eq_left wide]
  rw [reorder, reorder, List.drop_of_length_le (Nat.le_of_eq whole), List.append_nil,
    zip_filterMap_getElem? within wide]
  refine (positions.filterMap _).trans (.of_eq ?_)
  rw [filterMap_getElem?_range, ← zipped, List.take_length]

theorem matched_reorder {order : List Nat}
    (positions : order.Perm (List.range columns.length)) (wide : columns.length ≤ row.length) :
    (matched properties (reorder order columns) (reorder order row)).Perm
      (matched properties columns row) :=
  (zip_reorder_perm positions wide).filterMap _

/-- A column without a property has no part in a row. -/
theorem matched_insertIdx {column : String} {place : Nat} {value : Json}
    (unmatched : matchColumn? properties column = none) (within : place ≤ columns.length)
    (wide : columns.length ≤ row.length) :
    matched properties (columns.insertIdx place column) (row.insertIdx place value) =
      matched properties columns row := by
  induction place generalizing columns row with
  | zero =>
      rw [List.insertIdx_zero, List.insertIdx_zero, matched, List.zip_cons_cons,
        List.filterMap_cons_none (by rw [unmatched]; rfl), matched]
  | succ place inductionHypothesis =>
      cases columns with
      | nil => cases within
      | cons other columns =>
          cases row with
          | nil => cases wide
          | cons existing row =>
              have following := inductionHypothesis (Nat.le_of_succ_le_succ within)
                (Nat.le_of_succ_le_succ wide)
              rw [matched, matched] at following
              rw [List.insertIdx_succ_cons, List.insertIdx_succ_cons, matched, matched,
                List.zip_cons_cons, List.zip_cons_cons, List.filterMap_cons, List.filterMap_cons,
                following]

/-- Two rows, each with its own columns, have the same values of the same properties. -/
structure SameValues (properties : List Property) (columns others : List String)
    (row otherRow : List Json) : Prop where
  wide : columns.length ≤ row.length ↔ others.length ≤ otherRow.length
  values : columns.length ≤ row.length →
    (matched properties columns row).Perm (matched properties others otherRow)

theorem SameValues.symm {others : List String} {otherRow : List Json}
    (same : SameValues properties columns others row otherRow) :
    SameValues properties others columns otherRow row :=
  ⟨same.wide.symm, fun wide => (same.values (same.wide.mpr wide)).symm⟩

theorem SameValues.trans {others further : List String} {otherRow furtherRow : List Json}
    (left : SameValues properties columns others row otherRow)
    (right : SameValues properties others further otherRow furtherRow) :
    SameValues properties columns further row furtherRow :=
  ⟨left.wide.trans right.wide,
    fun wide => (left.values wide).trans (right.values (left.wide.mp wide))⟩

theorem sameValues_reorder {order : List Nat}
    (positions : order.Perm (List.range columns.length)) (row : List Json) :
    SameValues properties columns (reorder order columns) row (reorder order row) := by
  constructor
  · rw [(reorder_perm positions columns).length_eq, (reorder_perm positions row).length_eq]
  · exact fun wide => (matched_reorder positions wide).symm

theorem sameValues_insertIdx {column : String} {place : Nat}
    (unmatched : matchColumn? properties column = none) (within : place ≤ columns.length)
    (row : List Json) (value : Json) :
    SameValues properties columns (columns.insertIdx place column) row
      (row.insertIdx place value) := by
  constructor
  · rw [List.length_insertIdx, List.length_insertIdx, if_pos within]
    split <;> omega
  · exact fun wide => .of_eq (matched_insertIdx unmatched within wide).symm

/-- Two outputs have the same values of the same properties, row by row. -/
def Alike (properties : List Property) (first second : Output) : Prop :=
  List.Forall₂ (SameValues properties first.columns second.columns) first.rows second.rows

variable {first second : Output}

/-- Rearranging columns once keeps the values of properties. -/
theorem Rearranges.alike (rearranges : Rearranges properties first second) :
    Alike properties first second := by
  cases rearranges with
  | reorder positions =>
      rw [Alike, reorderColumns, List.forall₂_map_right_iff]
      exact List.forall₂_same.mpr fun row _ => sameValues_reorder positions row
  | insert within counted unmatched =>
      refine (forall₂_zipWith counted).imp ?_
      rintro row _ ⟨value, rfl⟩
      exact sameValues_insertIdx unmatched within row value

/-- Rearranging columns any number of times, back and forth, keeps the values of properties. -/
theorem alike_of_eqvGen (rearranged : Relation.EqvGen (Rearranges properties) first second) :
    Alike properties first second := by
  induction rearranged with
  | rel first second rearranges => exact rearranges.alike
  | refl output => exact List.forall₂_same.mpr fun row _ => ⟨Iff.rfl, fun _ => .refl _⟩
  | symm first second _ inductionHypothesis =>
      exact inductionHypothesis.flip.imp fun _ _ same => same.symm
  | trans first second third _ _ left right =>
      refine forall₂_trans ?_ left right
      exact fun _ _ _ => SameValues.trans

/-- The rows of outputs with the same values have the same documents. -/
theorem Alike.documents_eq (record : String) (alike : Alike properties first second)
    (wide : Wide first) (distinct : Distinct properties first.columns) :
    first.rows.map (document? (.record record properties) first.columns) =
      second.rows.map (document? (.record record properties) second.columns) := by
  rw [← List.forall₂_eq_eq_eq, List.forall₂_map_left_iff, List.forall₂_map_right_iff]
  refine ((List.forall₂_and_left _ _).mpr ⟨wide, alike⟩).imp ?_
  rintro row otherRow ⟨wideRow, same⟩
  exact document?_perm record wideRow distinct (same.values wideRow)

/-- Records are read alike from an output whose columns are rearranged, one from each row in
order, or the reading fails alike. -/
theorem read_rearranged (record : String) (wide : Wide first)
    (distinct : Distinct properties first.columns)
    (rearranged : Relation.EqvGen (Rearranges properties) first second)
    (accept : Json → Option α) :
    let kind := Kind.record record properties
    first.rows.map (document? kind first.columns) =
        second.rows.map (document? kind second.columns) ∧
      read kind accept first = read kind accept second ∧
      (∀ error, read kind accept first = .error error → error = .deserialize record) ∧
      ∀ values, read kind accept first = .ok values →
        List.Forall₂ (fun row value => ∃ document,
          document? kind first.columns row = some document ∧ accept document = some value)
          first.rows values := by
  intro kind
  have documents := (alike_of_eqvGen rearranged).documents_eq record wide distinct
  exact ⟨documents, read_congr accept documents, fun _ => eq_of_read_eq_error,
    fun _ => read_eq_ok_iff.mp⟩

end Rearranging

/-- Two columns change places and a column without a property is put between them. -/
theorem read_rearranged_swapped :
    let properties : List Property := [("id", .bigInt), ("fullName", .text)]
    let first : Output := ⟨2, ["ID", "full_name"], [[.int 1, .str "a"], [.int 2, .str "b"]]⟩
    let second : Output := ⟨2, ["full_name", "note", "ID"],
      [[.str "a", .null, .int 1], [.str "b", .bool true, .int 2]]⟩
    Wide first ∧ Distinct properties first.columns ∧
      Relation.EqvGen (Rearranges properties) first second ∧
      read (.record "Person" properties) some first =
        read (.record "Person" properties) some second := by
  intro properties first second
  have wide : Wide first := by decide
  have named {column name : String}
      (spelled : (matchColumn? properties column).map Prod.fst = some name) {property : Property}
      (matched : matchColumn? properties column = some property) : property.1 = name := by
    rw [matched] at spelled
    exact Option.some.inj spelled
  have distinct : Distinct properties first.columns := by
    refine List.pairwise_pair.mpr fun property isId isName => ?_
    have atId : property.1 = "id" := named (by decide +kernel) isId
    have atName : property.1 = "fullName" := named (by decide +kernel) isName
    exact absurd (atId.symm.trans atName) (by decide)
  have unmatched : matchColumn? properties "note" = none := by
    rw [← Option.isNone_iff_eq_none]
    decide +kernel
  have swapped : Rearranges properties first (reorderColumns [1, 0] first) :=
    .reorder first (by decide)
  have inserted : Rearranges properties (reorderColumns [1, 0] first) second :=
    @Rearranges.insert properties _ 1 "note" [.null, .bool true] (by decide) rfl unmatched
  have rearranged := (Relation.EqvGen.rel _ _ swapped).trans _ _ _ (.rel _ _ inserted)
  exact ⟨wide, distinct, rearranged,
    (read_rearranged "Person" wide distinct rearranged some).2.1⟩

end Rows

end NamedSql
