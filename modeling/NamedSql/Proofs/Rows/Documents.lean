import NamedSql.Rows.Mapping

/-!
# Documents of result rows

The document of a row has one member for every property which a column matches.  A property
which only one column matches has what the value of that column is restored to.
-/

namespace NamedSql

namespace Json

variable {name other : String} {value : Json} {members : List (String × Json)}

theorem lookup_cons_of_ne (different : other ≠ name) :
    ((name, value) :: members).lookup other = members.lookup other := by
  rw [List.lookup_cons, beq_eq_false_iff_ne.mpr different]

/-- A member which is inserted is found. -/
theorem lookup_insert_self : (insert name value members).lookup name = some value := by
  induction members with
  | nil => exact List.lookup_cons_self
  | cons member rest inductionHypothesis =>
      rcases member with ⟨existing, old⟩
      rw [insert]
      split
      · exact List.lookup_cons_self
      · split
        · exact List.lookup_cons_self
        · next different => rw [lookup_cons_of_ne different, inductionHypothesis]

/-- Inserting a member does not matter to other names. -/
theorem lookup_insert_of_ne (different : other ≠ name) :
    (insert name value members).lookup other = members.lookup other := by
  induction members with
  | nil => exact lookup_cons_of_ne different
  | cons member rest inductionHypothesis =>
      rcases member with ⟨existing, old⟩
      rw [insert]
      split
      · exact lookup_cons_of_ne different
      · split
        · next same =>
          rw [lookup_cons_of_ne different, lookup_cons_of_ne (same ▸ different)]
        · by_cases found : other = existing
          · subst found
            rw [List.lookup_cons_self, List.lookup_cons_self]
          · rw [lookup_cons_of_ne found, lookup_cons_of_ne found, inductionHypothesis]

/-- Members of other names do not matter. -/
theorem lookup_foldl_insert {added : List (String × Json)}
    (others : ∀ member ∈ added, other ≠ member.1) :
    (added.foldl (fun ordered member => insert member.1 member.2 ordered) members).lookup other =
      members.lookup other := by
  induction added generalizing members with
  | nil => rfl
  | cons member rest inductionHypothesis =>
      obtain ⟨here, later⟩ := List.forall_mem_cons.mp others
      rw [List.foldl_cons, inductionHypothesis later, lookup_insert_of_ne here]

/-- An object has a member of which no later one has the name. -/
theorem get?_object {front back : List (String × Json)}
    (last : ∀ member ∈ back, name ≠ member.1) :
    (object (front ++ (name, value) :: back)).get? name = some value := by
  rw [object, get?, List.foldl_append, List.foldl_cons, lookup_foldl_insert last,
    lookup_insert_self]

end Json

namespace Rows

variable {properties : List Property} {name column : String} {kind : Kind}
  {before after : List String} {earlier later : List Json} {value : Json}

/-- The three spellings of a column are tried in order. -/
theorem matchColumn?_eq_or :
    matchColumn? properties column = (Property.find? properties column).or
      ((Property.find? properties (camelCase column)).or
        (Property.find? properties (snakeCase column))) := by
  rw [matchColumn?]
  cases Property.find? properties column <;>
    cases Property.find? properties (camelCase column) <;> rfl

/-- The members which columns give have the names of the properties they match. -/
theorem name_of_mem_members? {columns : List (Option Property)} {row : List Json}
    {members : List (String × Json)} (restored : members? columns row = some members) :
    ∀ member ∈ members, ∃ kind, some (member.1, kind) ∈ columns := by
  fun_induction members? columns row generalizing members with
  | case1 name kind columns value row inductionHypothesis =>
      obtain ⟨here, _, restored⟩ := Option.bind_eq_some_iff.mp restored
      obtain ⟨rest, found, restored⟩ := Option.bind_eq_some_iff.mp restored
      cases restored
      intro member among
      rcases List.mem_cons.mp among with rfl | among
      · exact ⟨kind, List.mem_cons_self⟩
      · obtain ⟨other, declared⟩ := inductionHypothesis found member among
        exact ⟨other, List.mem_cons_of_mem _ declared⟩
  | case2 columns value row inductionHypothesis =>
      intro member among
      obtain ⟨other, declared⟩ := inductionHypothesis restored member among
      exact ⟨other, List.mem_cons_of_mem _ declared⟩
  | case3 =>
      cases restored
      exact fun _ absent => nomatch absent

/-- Columns are restored one after the other. -/
theorem members?_append {first second : List (Option Property)} {row rest : List Json}
    (sameLength : first.length = row.length) :
    members? (first ++ second) (row ++ rest) =
      (members? first row).bind fun front =>
        (members? second rest).map fun back => front ++ back := by
  induction first generalizing row with
  | nil =>
      cases row with
      | nil => simp [members?]
      | cons value row => cases sameLength
  | cons property first inductionHypothesis =>
      cases row with
      | nil => cases sameLength
      | cons value row =>
          have following := inductionHypothesis (Nat.succ.inj sameLength)
          cases property with
          | none => exact following
          | some property =>
              simp only [List.cons_append, members?, following]
              cases restore? property.2 value with
              | none => rfl
              | some restored => cases members? first row <;> cases members? second rest <;> rfl

/-- The columns besides the given one match other properties, and have values which are
restored. -/
structure Beside (properties : List Property) (name : String) (columns : List String)
    (row : List Json) : Prop where
  sameLength : columns.length = row.length
  restored : (members? (columns.map (matchColumn? properties)) row).isSome = true
  others : ∀ column ∈ columns, ∀ property ∈ matchColumn? properties column, name ≠ property.1

theorem Beside.length_matched (beside : Beside properties name before earlier) :
    (before.map (matchColumn? properties)).length = earlier.length := by
  rw [List.length_map]
  exact beside.sameLength

/-- The value of a property in the document of a row. -/
def property? (record : String) (properties : List Property) (name : String)
    (columns : List String) (row : List Json) : Option Json :=
  (document? (.record record properties) columns row).bind (·.get? name)

/-- The document of a row with one column for a property, whose value is restored. -/
theorem exists_document?_of_restored (record : String)
    (matched : matchColumn? properties column = some (name, kind))
    (left : Beside properties name before earlier) (right : Beside properties name after later)
    {document : Json} (restored : restore? kind value = some document) :
    ∃ whole, document? (.record record properties) (before ++ column :: after)
      (earlier ++ value :: later) = some whole ∧ whole.get? name = some document := by
  obtain ⟨front, foundFront⟩ := Option.isSome_iff_exists.mp left.restored
  obtain ⟨back, foundBack⟩ := Option.isSome_iff_exists.mp right.restored
  have last : ∀ member ∈ back, name ≠ member.1 := by
    intro member among
    obtain ⟨other, declared⟩ := name_of_mem_members? foundBack member among
    obtain ⟨columnAfter, among, matchedAfter⟩ := List.mem_map.mp declared
    exact right.others columnAfter among _ matchedAfter
  refine ⟨.object (front ++ (name, document) :: back), ?_, Json.get?_object last⟩
  rw [document?, List.map_append, List.map_cons, members?_append left.length_matched, foundFront,
    matched]
  simp [members?, restored, foundBack]

theorem document?_of_not_record (noRecord : ∀ name properties, kind ≠ .record name properties)
    (columns : List String) (row : List Json) :
    document? kind columns row = restore? kind (row.head?.getD .null) := by
  cases kind with
  | record name properties => exact absurd rfl (noRecord name properties)
  | _ => rfl

/-- A row has no document if one of its values is not restored. -/
theorem document?_eq_none (record : String)
    (matched : matchColumn? properties column = some (name, kind))
    (left : Beside properties name before earlier) (lost : restore? kind value = none) :
    document? (.record record properties) (before ++ column :: after)
      (earlier ++ value :: later) = none := by
  obtain ⟨front, foundFront⟩ := Option.isSome_iff_exists.mp left.restored
  rw [document?, List.map_append, List.map_cons, members?_append left.length_matched, foundFront,
    matched]
  simp [members?, lost]

/-- A property which only one column matches has what the value of the column is restored
to. -/
theorem property?_eq (record : String)
    (matched : matchColumn? properties column = some (name, kind))
    (left : Beside properties name before earlier) (right : Beside properties name after later) :
    property? record properties name (before ++ column :: after) (earlier ++ value :: later) =
      restore? kind value := by
  cases restored : restore? kind value with
  | none => rw [property?, document?_eq_none record matched left restored]; rfl
  | some document =>
      obtain ⟨whole, found, member⟩ :=
        exists_document?_of_restored record matched left right restored
      rw [property?, found]
      exact member

end Rows

end NamedSql
