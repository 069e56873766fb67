import NamedSql.Proofs.Sql.Quotations
import NamedSql.Sql.InClause
import NamedSql.Text.Search
import Mathlib.Data.List.TakeWhile

/-!
# Reading placeholder paths

A path is read from text exactly if the text starts with it and it could not be read any
further.  What is read from a text is therefore read from every longer text, as long as the
path ends where it did.
-/

namespace NamedSql.Sql

variable {isLetter : Char → Bool} {text name rest : List Char} {path : Path}

/-- Letters are no marks. -/
structure Letters (isLetter : Char → Bool) : Prop where
  dot : isLetter '.' = false
  neutral : ∀ c, isLetter c = true → Quotation.isNeutral c = true

theorem letters_isAlpha : Letters Char.isAlpha := by
  constructor
  · rfl
  · intro c letter
    rcases Quotation.isNeutral_or c with neutral | rfl | rfl | rfl | rfl
    · exact neutral
    all_goals cases letter

theorem letters_isLetterInAnyCase : Letters isLetterInAnyCase := by
  constructor
  · rfl
  · intro c letter
    rcases Quotation.isNeutral_or c with neutral | rfl | rfl | rfl | rfl
    · exact neutral
    all_goals cases letter

/-- Characters which make up a name. -/
structure IsName (isLetter : Char → Bool) (name : List Char) : Prop where
  starts : ∃ c ∈ name.head?, startsName isLetter c = true
  continues : ∀ c ∈ name, continuesName isLetter c = true

/-- No name goes on with the text. -/
def NameEnds (isLetter : Char → Bool) (rest : List Char) : Prop :=
  ∀ c ∈ rest.head?, continuesName isLetter c = false

theorem continuesName_of_startsName {c : Char} (starts : startsName isLetter c = true) :
    continuesName isLetter c = true := by
  rw [startsName, Bool.or_eq_true] at starts
  rw [continuesName, Bool.or_right_comm, Bool.or_eq_true, Bool.or_eq_true]
  exact .inl starts

/-- A name is read exactly if text starts with it and does not go on with a longer one. -/
theorem takeName?_eq_some_iff :
    takeName? isLetter text = some (name, rest) ↔
      IsName isLetter name ∧ NameEnds isLetter rest ∧ text = name ++ rest := by
  constructor
  · intro taken
    have whole := append_of_takeName? taken
    cases text with
    | nil => simp [takeName?] at taken
    | cons c tail =>
        rw [takeName?] at taken
        split at taken
        · next starts =>
          simp only [Option.some.injEq, Prod.mk.injEq] at taken
          obtain ⟨rfl, rfl⟩ := taken
          constructor
          · constructor
            · exact ⟨c, rfl, starts⟩
            · intro other among
              rcases List.mem_cons.mp among with rfl | later
              · exact continuesName_of_startsName starts
              · exact List.mem_takeWhile_imp later
          · constructor
            · intro other first
              have stops := List.head?_dropWhile_not (continuesName isLetter) tail
              rw [Option.mem_def.mp first] at stops
              simpa using stops
            · exact whole.symm
        · cases taken
  · rintro ⟨isName, ends, rfl⟩
    obtain ⟨c, first, starts⟩ := isName.starts
    obtain ⟨tail, rfl⟩ : ∃ tail, name = c :: tail := by
      cases name with
      | nil => cases first
      | cons head tail => exact ⟨tail, by rw [Option.some.inj first]⟩
    have continued : ∀ other ∈ tail, continuesName isLetter other = true :=
      fun other later => isName.continues other (List.mem_cons_of_mem c later)
    obtain ⟨front, after⟩ := Text.span_append continued ends
    rw [List.cons_append, takeName?, if_pos starts, front, after]

/-- Nothing is read where no name starts. -/
theorem takeName?_eq_none_iff :
    takeName? isLetter text = none ↔ ∀ c ∈ text.head?, startsName isLetter c = false := by
  cases text with
  | nil => simp [takeName?]
  | cons c tail => by_cases starts : startsName isLetter c = true <;> simp [takeName?, starts]

namespace Path

@[simp]
theorem chars_name (name : String) : chars ⟨name, none⟩ = name.toList :=
  List.append_nil _

@[simp]
theorem chars_property (name property : String) :
    chars ⟨name, some property⟩ = name.toList ++ '.' :: property.toList :=
  rfl

/-- The names of the path consist of letters, digits and underscores. -/
structure IsNamed (isLetter : Char → Bool) (path : Path) : Prop where
  name : IsName isLetter path.name.toList
  property : ∀ property ∈ path.property, IsName isLetter property.toList

/-- The path does not go on with the text. -/
structure Ends (isLetter : Char → Bool) (path : Path) (rest : List Char) : Prop where
  name : NameEnds isLetter rest
  property : path.property = none →
    ∀ tail, rest = '.' :: tail → ∀ c ∈ tail.head?, startsName isLetter c = false

/-- A path is read exactly if text starts with it and does not go on with a longer one. -/
theorem take?_eq_some_iff (letters : Letters isLetter) :
    Path.take? isLetter text = some (path, rest) ↔
      path.IsNamed isLetter ∧ path.Ends isLetter rest ∧ text = path.chars ++ rest := by
  constructor
  · intro taken
    have whole := (append_of_take? taken).symm
    rw [Path.take?] at taken
    split at taken
    · cases taken
    · next name tail found =>
      obtain ⟨isName, ends, _⟩ := takeName?_eq_some_iff.mp found
      split at taken
      · next noProperty =>
        cases taken
        constructor
        · constructor
          · rwa [String.toList_ofList]
          · intro property among
            cases among
        · constructor
          · constructor
            · exact ends
            · rintro - _ ⟨⟩
              exact takeName?_eq_none_iff.mp noProperty
          · exact whole
      · next property remaining foundProperty =>
        obtain ⟨isProperty, propertyEnds, _⟩ := takeName?_eq_some_iff.mp foundProperty
        cases taken
        constructor
        · constructor
          · rwa [String.toList_ofList]
          · rintro _ ⟨⟩
            rwa [String.toList_ofList]
        · constructor
          · constructor
            · exact propertyEnds
            · intro absent
              cases absent
          · exact whole
    · next name tail noDot found =>
      obtain ⟨isName, ends, _⟩ := takeName?_eq_some_iff.mp found
      cases taken
      constructor
      · constructor
        · rwa [String.toList_ofList]
        · intro property among
          cases among
      · constructor
        · constructor
          · exact ends
          · intro _ tail dotted
            exact (noDot tail dotted).elim
        · exact whole
  · rintro ⟨isNamed, ends, rfl⟩
    rcases path with ⟨name, property⟩
    cases property with
    | none =>
        have found : takeName? isLetter (Path.chars ⟨name, none⟩ ++ rest) =
            some (name.toList, rest) :=
          takeName?_eq_some_iff.mpr ⟨isNamed.name, ends.name, by rw [chars_name]⟩
        rw [Path.take?, found]
        split
        · next absent => cases absent
        · next tail same =>
          cases same
          rw [takeName?_eq_none_iff.mpr (ends.property rfl tail rfl), String.ofList_toList]
        · next same =>
          cases same
          rw [String.ofList_toList]
    | some property =>
        have found : takeName? isLetter (Path.chars ⟨name, some property⟩ ++ rest) =
            some (name.toList, '.' :: (property.toList ++ rest)) := by
          apply takeName?_eq_some_iff.mpr
          constructor
          · exact isNamed.name
          · constructor
            · rintro _ ⟨⟩
              rw [continuesName, letters.dot]
              rfl
            · rw [chars_property, List.append_assoc, List.cons_append]
        have foundProperty : takeName? isLetter (property.toList ++ rest) =
            some (property.toList, rest) :=
          takeName?_eq_some_iff.mpr ⟨isNamed.property property rfl, ends.name, rfl⟩
        rw [Path.take?, found]
        simp only [foundProperty, String.ofList_toList]

theorem IsNamed.of_take? (letters : Letters isLetter)
    (taken : Path.take? isLetter text = some (path, rest)) : path.IsNamed isLetter :=
  ((take?_eq_some_iff letters).mp taken).1

/-- More text does not matter to a path which still ends where it did. -/
theorem take?_append (letters : Letters isLetter)
    (taken : Path.take? isLetter text = some (path, rest)) {more : List Char}
    (ends : path.Ends isLetter (rest ++ more)) :
    Path.take? isLetter (text ++ more) = some (path, rest ++ more) := by
  obtain ⟨isNamed, _, rfl⟩ := (take?_eq_some_iff letters).mp taken
  exact (take?_eq_some_iff letters).mpr ⟨isNamed, ends, List.append_assoc _ _ _⟩

/-- No path is read where no name starts. -/
theorem take?_eq_none_iff :
    Path.take? isLetter text = none ↔ ∀ c ∈ text.head?, startsName isLetter c = false := by
  rw [← takeName?_eq_none_iff, Path.take?]
  split
  · next absent => exact iff_of_true rfl absent
  · next found =>
    rw [found]
    split <;> exact iff_of_false (Option.some_ne_none _) (Option.some_ne_none _)
  · next found =>
    rw [found]
    exact iff_of_false (Option.some_ne_none _) (Option.some_ne_none _)

theorem IsNamed.continuesName_or_dot (named : path.IsNamed isLetter) {c : Char}
    (among : c ∈ path.chars) : continuesName isLetter c = true ∨ c = '.' := by
  rw [Path.chars] at among
  rcases List.mem_append.mp among with inName | later
  · exact .inl (named.name.continues c inName)
  · cases given : path.property with
    | none => simp [given] at later
    | some property =>
        simp only [given, List.mem_cons] at later
        rcases later with dot | inProperty
        · exact .inr dot
        · exact .inl ((named.property property given).continues c inProperty)

/-- Paths are neutral text. -/
theorem IsNamed.neutral (letters : Letters isLetter) (named : path.IsNamed isLetter) :
    Quotation.Neutral path.chars := by
  intro c among
  rcases named.continuesName_or_dot among with continues | rfl
  · rw [continuesName, Bool.or_eq_true, Bool.or_eq_true] at continues
    rcases continues with (letter | digit) | underscore
    · exact letters.neutral c letter
    · exact Quotation.isNeutral_of_isDigit digit
    · rw [beq_iff_eq.mp underscore]
      rfl
  · rfl

/-- A path ends with the text. -/
theorem ends_nil (path : Path) : path.Ends isLetter [] := by
  constructor
  · intro c first
    cases first
  · intro _ tail dotted
    cases dotted

/-- Paths are told apart by how they are written. -/
theorem IsNamed.eq_of_chars_eq (letters : Letters isLetter) {other : Path}
    (named : path.IsNamed isLetter) (otherNamed : other.IsNamed isLetter)
    (same : path.chars = other.chars) : path = other := by
  have taken := (take?_eq_some_iff letters).mpr ⟨named, ends_nil path, rfl⟩
  have takenOther := (take?_eq_some_iff letters).mpr ⟨otherNamed, ends_nil other, rfl⟩
  rw [same, takenOther] at taken
  cases taken
  rfl

/-! ### Longest paths -/

/-- The path is the longest one which text starts with. -/
structure Longest (isLetter : Char → Bool) (path : Path) (text : List Char) : Prop where
  named : path.IsNamed isLetter
  starts : path.chars <+: text
  longest : ∀ other : Path, other.IsNamed isLetter → other.chars <+: text →
    other.chars.length ≤ path.chars.length

/-- At least the name is read of a path which text starts with. -/
theorem exists_take?_of_name {remaining : List Char}
    (taken : takeName? isLetter text = some (name, remaining)) :
    ∃ path rest, Path.take? isLetter text = some (path, rest) ∧
      rest.length ≤ remaining.length := by
  rw [Path.take?, taken]
  split
  · next absent => cases absent
  · next same =>
    cases same
    split
    · exact ⟨_, _, rfl, le_rfl⟩
    · next property rest found =>
      refine ⟨_, _, rfl, ?_⟩
      rw [List.length_cons, ← append_of_takeName? found, List.length_append]
      omega
  · next same =>
    cases same
    exact ⟨_, _, rfl, le_rfl⟩

/-- A name which text starts with is read, and what it goes on with. -/
theorem takeName?_append (isName : IsName isLetter name) (rest : List Char) :
    takeName? isLetter (name ++ rest) =
      some (name ++ rest.takeWhile (continuesName isLetter),
        rest.dropWhile (continuesName isLetter)) := by
  obtain ⟨c, first, starts⟩ := isName.starts
  cases name with
  | nil => cases first
  | cons head tail =>
      cases first
      have continued : ∀ other ∈ tail, continuesName isLetter other = true :=
        fun other later => isName.continues other (List.mem_cons_of_mem c later)
      rw [List.cons_append, takeName?, if_pos starts, List.takeWhile_append_of_pos continued,
        List.dropWhile_append_of_pos continued, List.cons_append]

/-- What is read of text is no shorter than any path which the text starts with. -/
theorem IsNamed.exists_take? (letters : Letters isLetter) (named : path.IsNamed isLetter)
    (rest : List Char) :
    ∃ other remaining, Path.take? isLetter (path.chars ++ rest) = some (other, remaining) ∧
      remaining.length ≤ rest.length := by
  have shorter : (rest.dropWhile (continuesName isLetter)).length ≤ rest.length :=
    (List.dropWhile_suffix _).length_le
  rcases path with ⟨name, property⟩
  cases property with
  | none =>
      rw [chars_name]
      obtain ⟨other, remaining, taken, atMost⟩ :=
        exists_take?_of_name (takeName?_append named.name rest)
      exact ⟨other, remaining, taken, atMost.trans shorter⟩
  | some property =>
      have stops : ¬continuesName isLetter '.' = true := by
        rw [continuesName, letters.dot]
        exact Bool.false_ne_true
      rw [chars_property, List.append_assoc, List.cons_append, Path.take?,
        takeName?_append named.name, List.takeWhile_cons_of_neg stops,
        List.dropWhile_cons_of_neg stops]
      simp only [takeName?_append (named.property property rfl) rest]
      exact ⟨_, _, rfl, shorter⟩

/-- The longest path is read which text starts with. -/
theorem exists_take?_iff (letters : Letters isLetter) :
    (∃ rest, Path.take? isLetter text = some (path, rest)) ↔ path.Longest isLetter text := by
  constructor
  · rintro ⟨rest, taken⟩
    obtain ⟨named, -, whole⟩ := (take?_eq_some_iff letters).mp taken
    refine ⟨named, ⟨rest, whole.symm⟩, ?_⟩
    rintro other otherNamed ⟨later, rfl⟩
    obtain ⟨_, _, same, atMost⟩ := otherNamed.exists_take? letters later
    cases taken.symm.trans same
    have total := congrArg List.length whole
    rw [List.length_append, List.length_append] at total
    omega
  · rintro ⟨named, ⟨rest, rfl⟩, longest⟩
    obtain ⟨other, remaining, taken, atMost⟩ := named.exists_take? letters rest
    obtain ⟨otherNamed, -, whole⟩ := (take?_eq_some_iff letters).mp taken
    have noLonger := longest other otherNamed ⟨remaining, whole.symm⟩
    have total := congrArg List.length whole
    rw [List.length_append, List.length_append] at total
    have sameChars := (List.append_inj whole (by omega)).1
    rw [named.eq_of_chars_eq letters otherNamed sameChars] at taken ⊢
    exact ⟨remaining, taken⟩

/-- Text starts with a path exactly if it starts with a name. -/
theorem exists_longest_iff (letters : Letters isLetter) :
    (∃ path : Path, path.Longest isLetter text) ↔
      ∃ c ∈ text.head?, startsName isLetter c = true := by
  simp only [← exists_take?_iff letters]
  constructor
  · rintro ⟨path, rest, taken⟩
    by_contra unnamed
    have absent : Path.take? isLetter text = none :=
      take?_eq_none_iff.mpr fun c first =>
        Bool.eq_false_iff.mpr fun starts => unnamed ⟨c, first, starts⟩
    cases absent.symm.trans taken
  · rintro ⟨c, first, starts⟩
    cases taken : Path.take? isLetter text with
    | none => exact nomatch (take?_eq_none_iff.mp taken c first).symm.trans starts
    | some found => exact ⟨found.1, found.2, rfl⟩

end Path

end NamedSql.Sql
