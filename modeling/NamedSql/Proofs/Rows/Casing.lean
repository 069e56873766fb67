import NamedSql.Proofs.Rows.Documents
import NamedSql.Proofs.Sql.Spellings
import Mathlib.Data.List.Nodup

/-!
# Spellings of columns and properties

A property is named by letters and digits, and each later word starts with a capital.  Such a
name is spelled with underscores in one way, and is told from that spelling in lower and in upper
case.
-/

namespace NamedSql.Rows

open Sql (forall_ascii lt_of_continuesName continuesName)

/-! ## Letters -/

/-- A character within a word: a lowercase letter or a digit. -/
def isPlain (c : Char) : Bool :=
  c.isLower || c.isDigit

section Letters

variable {c : Char}

theorem lt_of_isAlphanum (alphanumeric : c.isAlphanum = true) : c.toNat < 128 := by
  apply lt_of_continuesName
  rw [continuesName, show (c.isAlpha || c.isDigit) = true from alphanumeric, Bool.true_or]

theorem isPlain_of_isLower (lower : c.isLower = true) : isPlain c = true := by
  rw [isPlain, lower, Bool.true_or]

theorem isAlphanum_iff : c.isAlphanum = true ↔ isPlain c = true ∨ c.isUpper = true := by
  have classes : c.isAlphanum = (c.isUpper || c.isLower || c.isDigit) := rfl
  rw [classes, isPlain, Bool.or_assoc, Bool.or_eq_true, or_comm]

theorem isAlphanum_of_isPlain (plain : isPlain c = true) : c.isAlphanum = true :=
  isAlphanum_iff.mpr (.inl plain)

/-- A plain character is its own lower case. -/
theorem lower_of_isPlain (plain : isPlain c = true) :
    Text.toLower c = [c] ∧ Text.isUppercase c = false ∧ c ≠ '_' :=
  forall_ascii (P := fun c => isPlain c = true →
      Text.toLower c = [c] ∧ Text.isUppercase c = false ∧ c ≠ '_')
    (by decide +kernel) (lt_of_isAlphanum (isAlphanum_of_isPlain plain)) plain

/-- A capital is the upper case of a plain character. -/
theorem lower_of_isUpper (upper : c.isUpper = true) :
    Text.isUppercase c = true ∧ Text.toLower c = [c.toLower] ∧ isPlain c.toLower = true ∧
      Text.toUpper c.toLower = [c] :=
  forall_ascii (P := fun c => c.isUpper = true →
      Text.isUppercase c = true ∧ Text.toLower c = [c.toLower] ∧ isPlain c.toLower = true ∧
        Text.toUpper c.toLower = [c])
    (by decide +kernel) (lt_of_isAlphanum (isAlphanum_iff.mpr (.inr upper))) upper

/-- A lowercase letter is the lower case of a capital. -/
theorem toUpper_of_isLower (lower : c.isLower = true) :
    c.toUpper.isUpper = true ∧ c.toUpper.toLower = c :=
  forall_ascii (P := fun c => c.isLower = true →
      c.toUpper.isUpper = true ∧ c.toUpper.toLower = c)
    (by decide +kernel)
    (lt_of_isAlphanum (isAlphanum_of_isPlain (isPlain_of_isLower lower))) lower

/-- A plain character is the lower case of its own upper case. -/
theorem upper_of_isPlain (plain : isPlain c = true) :
    Text.toUpper c = [c.toUpper] ∧ Text.toUpper c.toUpper = [c.toUpper] ∧
      Text.toLower c.toUpper = [c] ∧ c.toUpper ≠ '_' :=
  forall_ascii (P := fun c => isPlain c = true →
      Text.toUpper c = [c.toUpper] ∧ Text.toUpper c.toUpper = [c.toUpper] ∧
        Text.toLower c.toUpper = [c] ∧ c.toUpper ≠ '_')
    (by decide +kernel) (lt_of_isAlphanum (isAlphanum_of_isPlain plain)) plain

/-- Writing text in one case: what a plain character is written as differs from it in case only,
and underscores stay. -/
structure Recases (write : Char → List Char) : Prop where
  underscore : write '_' = ['_']
  plain : ∀ c, isPlain c = true → ∃ written, write c = [written] ∧ written ≠ '_' ∧
    Text.toLower written = Text.toLower c ∧ Text.toUpper written = Text.toUpper c

theorem recases_singleton : Recases fun c => [c] := by
  constructor
  · rfl
  · exact fun c plain => ⟨c, rfl, (lower_of_isPlain plain).2.2, rfl, rfl⟩

theorem recases_toUpper : Recases Text.toUpper := by
  constructor
  · decide +kernel
  · intro c plain
    obtain ⟨upper, unchanged, lower, notUnderscore⟩ := upper_of_isPlain plain
    refine ⟨c.toUpper, upper, notUnderscore, ?_, ?_⟩
    · rw [lower, (lower_of_isPlain plain).1]
    · rw [unchanged, upper]

end Letters

/-! ## Spellings -/

/-- How a name goes on with capitals, and with underscores. -/
inductive Spelled : (capitals underscores : List Char) → Prop where
  | nil : Spelled [] []
  | plain {c : Char} {capitals underscores : List Char} (plain : isPlain c = true)
      (rest : Spelled capitals underscores) : Spelled (c :: capitals) (c :: underscores)
  | capital {c : Char} {capitals underscores : List Char} (upper : c.isUpper = true)
      (rest : Spelled capitals underscores) :
      Spelled (c :: capitals) ('_' :: c.toLower :: underscores)

namespace Spelled

variable {capitals underscores : List Char} {write : Char → List Char}

theorem snakeFrom_eq (spelled : Spelled capitals underscores) :
    snakeFrom true capitals = underscores := by
  induction spelled with
  | nil => rfl
  | plain plain _ inductionHypothesis =>
      rw [snakeFrom, (lower_of_isPlain plain).2.1, inductionHypothesis]
      rfl
  | capital upper _ inductionHypothesis =>
      obtain ⟨isUppercase, lower, -⟩ := lower_of_isUpper upper
      rw [snakeFrom, isUppercase, lower, inductionHypothesis]
      rfl

theorem camelFrom_eq (recases : Recases write) (spelled : Spelled capitals underscores) :
    camelFrom true false (underscores.flatMap write) = capitals := by
  induction spelled with
  | nil => rfl
  | plain plain _ inductionHypothesis =>
      obtain ⟨written, writes, notUnderscore, lower, -⟩ := recases.plain _ plain
      rw [List.flatMap_cons, writes, List.singleton_append, camelFrom, if_neg notUnderscore,
        inductionHypothesis, lower, (lower_of_isPlain plain).1]
      rfl
  | capital upper _ inductionHypothesis =>
      obtain ⟨-, -, plain, capital⟩ := lower_of_isUpper upper
      obtain ⟨written, writes, notUnderscore, -, same⟩ := recases.plain _ plain
      rw [List.flatMap_cons, recases.underscore, List.flatMap_cons, writes,
        List.singleton_append, List.singleton_append, camelFrom, if_pos rfl, camelFrom,
        if_neg notUnderscore, inductionHypothesis, same, capital]
      rfl

theorem append {more moreUnderscores : List Char} (spelled : Spelled capitals underscores)
    (following : Spelled more moreUnderscores) :
    Spelled (capitals ++ more) (underscores ++ moreUnderscores) := by
  induction spelled with
  | nil => exact following
  | plain plain _ inductionHypothesis => exact .plain plain inductionHypothesis
  | capital upper _ inductionHypothesis => exact .capital upper inductionHypothesis

theorem of_plain {text : List Char} (plain : ∀ c ∈ text, isPlain c = true) :
    Spelled text text := by
  induction text with
  | nil => exact .nil
  | cons c text inductionHypothesis =>
      obtain ⟨here, later⟩ := List.forall_mem_cons.mp plain
      exact .plain here (inductionHypothesis later)

theorem exists_underscores (alphanumeric : ∀ c ∈ capitals, c.isAlphanum = true) :
    ∃ underscores, Spelled capitals underscores := by
  induction capitals with
  | nil => exact ⟨[], .nil⟩
  | cons c capitals inductionHypothesis =>
      obtain ⟨here, later⟩ := List.forall_mem_cons.mp alphanumeric
      obtain ⟨underscores, spelled⟩ := inductionHypothesis later
      rcases isAlphanum_iff.mp here with plain | upper
      · exact ⟨_, .plain plain spelled⟩
      · exact ⟨_, .capital upper spelled⟩

/-- Without underscores, a name has no capitals. -/
theorem eq_of_notMem (spelled : Spelled capitals underscores) (absent : '_' ∉ underscores) :
    underscores = capitals := by
  induction spelled with
  | nil => rfl
  | plain _ _ inductionHypothesis =>
      rw [inductionHypothesis fun later => absent (List.mem_cons_of_mem _ later)]
  | capital => exact absurd List.mem_cons_self absent

end Spelled

/-! ## Names -/

/-- The name in upper case. -/
def upperCase (name : String) : String :=
  String.ofList (name.toList.flatMap Text.toUpper)

/-- The name of a property: letters and digits after a lowercase letter. -/
def IsPropertyName (name : String) : Prop :=
  ∃ c rest, name.toList = c :: rest ∧ c.isLower = true ∧
    ∀ other ∈ rest, other.isAlphanum = true

/-- A word of a column: lowercase letters and digits after a lowercase letter. -/
def IsWord (word : List Char) : Prop :=
  ∃ c rest, word = c :: rest ∧ c.isLower = true ∧ ∀ other ∈ rest, isPlain other = true

/-- The name of a column: words with single underscores between them. -/
def IsColumnName (name : String) : Prop :=
  ∃ words, words ≠ [] ∧ (∀ word ∈ words, IsWord word) ∧ name.toList = ['_'].intercalate words

section Names

variable {c : Char} {capitals underscores : List Char} {name : String}

theorem snakeCase_ofList (lower : c.isLower = true) (spelled : Spelled capitals underscores) :
    snakeCase (String.ofList (c :: capitals)) = String.ofList (c :: underscores) := by
  have notUpper := (lower_of_isPlain (isPlain_of_isLower lower)).2.1
  rw [snakeCase, String.toList_ofList, snakeFrom, notUpper, spelled.snakeFrom_eq]
  rfl

theorem camelCase_ofList {write : Char → List Char} (recases : Recases write)
    (lower : c.isLower = true) (spelled : Spelled capitals underscores) :
    camelCase (String.ofList ((c :: underscores).flatMap write)) =
      String.ofList (c :: capitals) := by
  have plain := isPlain_of_isLower lower
  obtain ⟨written, writes, notUnderscore, same, -⟩ := recases.plain c plain
  rw [camelCase, String.toList_ofList, List.flatMap_cons, writes, List.singleton_append, camelFrom,
    if_neg notUnderscore, spelled.camelFrom_eq recases, same, (lower_of_isPlain plain).1]
  rfl

theorem IsPropertyName.exists_spelled (isName : IsPropertyName name) :
    ∃ c capitals underscores, c.isLower = true ∧ Spelled capitals underscores ∧
      name = String.ofList (c :: capitals) ∧
      snakeCase name = String.ofList (c :: underscores) := by
  obtain ⟨c, capitals, whole, lower, alphanumeric⟩ := isName
  obtain ⟨underscores, spelled⟩ := Spelled.exists_underscores alphanumeric
  have same : name = String.ofList (c :: capitals) := by rw [← whole, String.ofList_toList]
  exact ⟨c, capitals, underscores, lower, spelled, same,
    same ▸ snakeCase_ofList lower spelled⟩

/-- Properties are told from columns in lower case. -/
theorem IsPropertyName.camelCase_snakeCase (isName : IsPropertyName name) :
    camelCase (snakeCase name) = name := by
  obtain ⟨c, capitals, underscores, lower, spelled, same, snake⟩ := isName.exists_spelled
  have restored := camelCase_ofList recases_singleton lower spelled
  rwa [List.flatMap_singleton', ← snake, ← same] at restored

/-- Properties are told from columns in upper case. -/
theorem IsPropertyName.camelCase_upperCase (isName : IsPropertyName name) :
    camelCase (upperCase (snakeCase name)) = name := by
  obtain ⟨c, capitals, underscores, lower, spelled, same, snake⟩ := isName.exists_spelled
  rw [upperCase, snake, String.toList_ofList, camelCase_ofList recases_toUpper lower spelled, same]

theorem exists_capitals {words : List (List Char)} (areWords : ∀ word ∈ words, IsWord word) :
    ∃ capitals, Spelled capitals (words.flatMap ('_' :: ·)) := by
  induction words with
  | nil => exact ⟨[], .nil⟩
  | cons word words inductionHypothesis =>
      obtain ⟨here, later⟩ := List.forall_mem_cons.mp areWords
      obtain ⟨c, rest, rfl, lower, plain⟩ := here
      obtain ⟨capitals, spelled⟩ := inductionHypothesis later
      obtain ⟨upper, same⟩ := toUpper_of_isLower lower
      have capital := Spelled.capital upper ((Spelled.of_plain plain).append spelled)
      rw [same] at capital
      exact ⟨_, capital⟩

theorem intercalate_cons {α : Type} (separator : α) (first : List α) (others : List (List α)) :
    [separator].intercalate (first :: others) =
      first ++ others.flatMap (separator :: ·) := by
  induction others generalizing first with
  | nil => rw [List.intercalate_singleton, List.flatMap_nil, List.append_nil]
  | cons second others inductionHypothesis =>
      rw [List.intercalate_cons_cons, inductionHypothesis, List.flatMap_cons, List.append_assoc]
      rfl

/-- Columns are told from properties. -/
theorem IsColumnName.snakeCase_camelCase (isName : IsColumnName name) :
    snakeCase (camelCase name) = name := by
  obtain ⟨words, nonempty, areWords, whole⟩ := isName
  obtain ⟨first, others, rfl⟩ := List.exists_cons_of_ne_nil nonempty
  obtain ⟨here, later⟩ := List.forall_mem_cons.mp areWords
  obtain ⟨c, rest, rfl, lower, plain⟩ := here
  obtain ⟨capitals, following⟩ := exists_capitals later
  have spelled := (Spelled.of_plain plain).append following
  rw [intercalate_cons, List.cons_append] at whole
  have same : name = String.ofList (c :: (rest ++ others.flatMap ('_' :: ·))) := by
    rw [← whole, String.ofList_toList]
  have camel := camelCase_ofList recases_singleton lower spelled
  rw [List.flatMap_singleton', ← same] at camel
  rw [camel, snakeCase_ofList lower spelled, same]

/-! ## Properties of columns -/

variable {properties : List Property} {column : String} {found : Property}

/-- A column which is not the name of another property matches the property of its spelling with
capitals. -/
theorem matchColumn?_of_camelCase
    (present : Property.find? properties (camelCase column) = some found)
    (alone : ∀ property ∈ properties, property.1 = column → property.1 = camelCase column) :
    matchColumn? properties column = some found := by
  rw [matchColumn?_eq_or, present]
  cases direct : Property.find? properties column with
  | none => rfl
  | some property =>
      have named := List.find?_some direct
      have same := alone property (List.mem_of_find?_eq_some direct) (beq_iff_eq.mp named)
      rw [← beq_iff_eq.mp named, same, present] at direct
      rw [← direct, Option.some_or]

/-- A name without capitals is the only one with its spelling. -/
theorem IsPropertyName.eq_of_snakeCase (isName : IsPropertyName name) {other : String}
    (otherName : IsPropertyName other) (same : other = snakeCase name) : other = name := by
  obtain ⟨c, capitals, underscores, lower, spelled, whole, snake⟩ := isName.exists_spelled
  obtain ⟨first, rest, otherWhole, -, alphanumeric⟩ := otherName
  rw [same, snake, String.toList_ofList] at otherWhole
  cases otherWhole
  have absent : '_' ∉ underscores := fun among => nomatch alphanumeric '_' among
  rw [same, snake, whole, spelled.eq_of_notMem absent]

theorem IsPropertyName.ne_upperCase (isName : IsPropertyName name) {other : String}
    (otherName : IsPropertyName other) : other ≠ upperCase (snakeCase name) := by
  rintro rfl
  obtain ⟨c, capitals, underscores, lower, -, -, snake⟩ := isName.exists_spelled
  obtain ⟨first, rest, whole, firstLower, -⟩ := otherName
  have capital := (upper_of_isPlain (isPlain_of_isLower lower)).1
  rw [upperCase, snake, String.toList_ofList, String.toList_ofList, List.flatMap_cons, capital,
    List.singleton_append] at whole
  cases whole
  have notUpper := (lower_of_isPlain (isPlain_of_isLower firstLower)).2.1
  have isUpper := (lower_of_isUpper (toUpper_of_isLower lower).1).1
  exact nomatch notUpper.symm.trans isUpper

/-- The column which spells a property, in lower or in upper case, matches the first property
of its name. -/
theorem exists_matched (areNames : ∀ property ∈ properties, IsPropertyName property.1)
    {property : Property} (among : property ∈ properties) :
    ∃ found, found.1 = property.1 ∧ Property.find? properties property.1 = some found ∧
      matchColumn? properties (snakeCase property.1) = some found ∧
      matchColumn? properties (upperCase (snakeCase property.1)) = some found ∧
      ((properties.map Prod.fst).Nodup → found = property) := by
  have isName := areNames property among
  have declared : (Property.find? properties property.1).isSome = true :=
    List.find?_isSome.mpr ⟨property, among, beq_self_eq_true _⟩
  obtain ⟨found, present⟩ := Option.isSome_iff_exists.mp declared
  have named := List.find?_some present
  have sameName : found.1 = property.1 := beq_iff_eq.mp named
  have foundAmong := List.mem_of_find?_eq_some present
  refine ⟨found, sameName, present, ?_, ?_, ?_⟩
  · apply matchColumn?_of_camelCase
    · rwa [isName.camelCase_snakeCase]
    · intro other otherAmong same
      rw [isName.camelCase_snakeCase]
      exact isName.eq_of_snakeCase (areNames other otherAmong) same
  · apply matchColumn?_of_camelCase
    · rwa [isName.camelCase_upperCase]
    · intro other otherAmong same
      exact absurd same (isName.ne_upperCase (areNames other otherAmong))
  · exact fun distinct => List.inj_on_of_nodup_map distinct foundAmong among sameName

/-- Names are told from their spellings, in lower and in upper case, and so are columns from
properties.  Hence a column matches the property whose name it spells, and no other. -/
theorem spellings_round_trip :
    (∀ name, IsPropertyName name →
      camelCase (snakeCase name) = name ∧ camelCase (upperCase (snakeCase name)) = name) ∧
    (∀ name, IsColumnName name → snakeCase (camelCase name) = name) ∧
    ∀ properties : List Property, (∀ property ∈ properties, IsPropertyName property.1) →
      ∀ property ∈ properties, ∃ found, found.1 = property.1 ∧
        Property.find? properties property.1 = some found ∧
        matchColumn? properties (snakeCase property.1) = some found ∧
        matchColumn? properties (upperCase (snakeCase property.1)) = some found ∧
        ((properties.map Prod.fst).Nodup → found = property) :=
  ⟨fun _ isName => ⟨isName.camelCase_snakeCase, isName.camelCase_upperCase⟩,
    fun _ isName => isName.snakeCase_camelCase,
    fun _ areNames _ among => exists_matched areNames among⟩

/-- The spellings of a name with two words, where another property is named by the first. -/
theorem spellings_round_trip_price :
    camelCase (upperCase (snakeCase "unitPrice")) = "unitPrice" ∧
      snakeCase (camelCase "unit_price") = "unit_price" ∧
      ∃ found : Property, found.1 = "unitPrice" ∧
        matchColumn? [("unit", .text), ("unitPrice", .double)] (snakeCase "unitPrice") =
          some found := by
  obtain ⟨ofNames, ofColumns, ofProperties⟩ := spellings_round_trip
  have unit : IsPropertyName "unit" := ⟨'u', "nit".toList, rfl, rfl, List.all_eq_true.mp rfl⟩
  have unitPrice : IsPropertyName "unitPrice" :=
    ⟨'u', "nitPrice".toList, rfl, rfl, List.all_eq_true.mp rfl⟩
  have column : IsColumnName "unit_price" := by
    refine ⟨["unit".toList, "price".toList], List.cons_ne_nil _ _, ?_, by decide +kernel⟩
    refine List.forall_mem_cons.mpr ⟨?_, List.forall_mem_singleton.mpr ?_⟩
    · exact ⟨'u', "nit".toList, rfl, rfl, List.all_eq_true.mp rfl⟩
    · exact ⟨'p', "rice".toList, rfl, rfl, List.all_eq_true.mp rfl⟩
  have areNames : ∀ property ∈ ([("unit", .text), ("unitPrice", .double)] : List Property),
      IsPropertyName property.1 :=
    List.forall_mem_cons.mpr ⟨unit, List.forall_mem_singleton.mpr unitPrice⟩
  obtain ⟨found, named, -, matched, -⟩ :=
    ofProperties _ areNames ("unitPrice", .double) (List.mem_cons_of_mem _ List.mem_cons_self)
  exact ⟨(ofNames _ unitPrice).2, ofColumns _ column, found, named, matched⟩

end Names

end NamedSql.Rows
