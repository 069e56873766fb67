/-!
# Placeholder paths

A placeholder addresses a parameter, or a property of one: `name` or
`name.property`.
-/

namespace NamedSql.Sql

/-- What a placeholder addresses. -/
structure Path where
  name : String
  property : Option String
deriving DecidableEq

/-- The path as it is written. -/
def Path.chars (path : Path) : List Char :=
  path.name.toList ++
    match path.property with
    | none => []
    | some property => '.' :: property.toList

/-- The path as it is displayed. -/
def Path.text (path : Path) : String :=
  String.ofList path.chars

/-- Whether a name may start with the character, given which characters are
letters. -/
def startsName (isLetter : Char → Bool) (c : Char) : Bool :=
  isLetter c || c == '_'

/-- Whether a name may continue with the character. -/
def continuesName (isLetter : Char → Bool) (c : Char) : Bool :=
  isLetter c || c.isDigit || c == '_'

/-- The longest name which text starts with, and the text after it. -/
def takeName? (isLetter : Char → Bool) : List Char → Option (List Char × List Char)
  | [] => none
  | c :: rest =>
    if startsName isLetter c then
      some (c :: rest.takeWhile (continuesName isLetter), rest.dropWhile (continuesName isLetter))
    else none

/-- The longest path which text starts with, and the text after it. -/
def Path.take? (isLetter : Char → Bool) (text : List Char) : Option (Path × List Char) :=
  match takeName? isLetter text with
  | none => none
  | some (name, '.' :: rest) =>
    match takeName? isLetter rest with
    | none => some (⟨String.ofList name, none⟩, '.' :: rest)
    | some (property, rest) => some (⟨String.ofList name, some (String.ofList property)⟩, rest)
  | some (name, rest) => some (⟨String.ofList name, none⟩, rest)

/-- A name and the text after it make up the text. -/
theorem append_of_takeName? {isLetter : Char → Bool} {text name rest : List Char}
    (h : takeName? isLetter text = some (name, rest)) : name ++ rest = text := by
  cases text with
  | nil => simp [takeName?] at h
  | cons c tail =>
    simp only [takeName?] at h
    split at h
    · simp only [Option.some.injEq, Prod.mk.injEq] at h
      rw [← h.1, ← h.2, List.cons_append, List.takeWhile_append_dropWhile]
    · simp at h

/-- Names are not empty. -/
theorem ne_nil_of_takeName? {isLetter : Char → Bool} {text name rest : List Char}
    (h : takeName? isLetter text = some (name, rest)) : name ≠ [] := by
  cases text with
  | nil => simp [takeName?] at h
  | cons c tail =>
    simp only [takeName?] at h
    split at h
    · simp only [Option.some.injEq, Prod.mk.injEq] at h
      simp [← h.1]
    · simp at h

/-- A path and the text after it make up the text. -/
theorem Path.append_of_take? {isLetter : Char → Bool} {text rest : List Char} {path : Path}
    (h : Path.take? isLetter text = some (path, rest)) : path.chars ++ rest = text := by
  simp only [Path.take?] at h
  split at h
  · simp at h
  · next name tail found =>
    split at h
    · simp only [Option.some.injEq, Prod.mk.injEq] at h
      rw [← h.1, ← h.2, ← append_of_takeName? found]
      simp [Path.chars]
    · next property remaining foundProperty =>
      simp only [Option.some.injEq, Prod.mk.injEq] at h
      rw [← h.1, ← h.2, ← append_of_takeName? found, ← append_of_takeName? foundProperty]
      simp [Path.chars]
  · next name tail _ found =>
    simp only [Option.some.injEq, Prod.mk.injEq] at h
    rw [← h.1, ← h.2, ← append_of_takeName? found]
    simp [Path.chars]

/-- Reading a path consumes text. -/
theorem Path.length_lt_of_take? {isLetter : Char → Bool} {text rest : List Char} {path : Path}
    (h : Path.take? isLetter text = some (path, rest)) : rest.length < text.length := by
  have nonempty : path.chars ≠ [] := by
    simp only [Path.take?] at h
    split at h
    · simp at h
    · next name tail found =>
      have := ne_nil_of_takeName? found
      split at h <;>
        · simp only [Option.some.injEq, Prod.mk.injEq] at h
          simp [← h.1, Path.chars, this]
    · next name tail _ found =>
      have := ne_nil_of_takeName? found
      simp only [Option.some.injEq, Prod.mk.injEq] at h
      simp [← h.1, Path.chars, this]
  have total := congrArg List.length (Path.append_of_take? h)
  have := List.length_pos_iff.2 nonempty
  simp only [List.length_append] at total
  omega

end NamedSql.Sql
