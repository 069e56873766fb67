import NamedSql.Sql.Path
import NamedSql.Sql.Quotation
import NamedSql.Text.Blank
import NamedSql.Text.Digits
import NamedSql.Text.Word

/-!
# Membership clauses

`IN (:path)` and `NOT IN (:path)` compare with every item of a list.  Where the
path addresses a list they are written anew as comparisons with an array,
`=ANY(:path)` and `!=ALL(:path)`.  Clauses are found in any letter case and with
any blanks between their parts, where a word starts; quoted ones stay as they
are.
-/

namespace NamedSql.Sql

/-- A clause as it was found. -/
structure InClause where
  negated : Bool
  path : Path
  written : List Char
deriving DecidableEq

/-- Letters whose case does not matter: the long s and the Kelvin sign are
cases of ASCII letters. -/
def isLetterInAnyCase (c : Char) : Bool :=
  c.isAlpha || c == '\u017F' || c == '\u212A'

/-- Read a lowercase word in any case. -/
def takeWord? : (word text : List Char) → Option (List Char)
  | [], text => some text
  | _ :: _, [] => none
  | letter :: word, c :: text => if c.toLower = letter then takeWord? word text else none

/-- Read `NOT` and the blanks after it. -/
def takeNot? (text : List Char) : Option (List Char) :=
  match takeWord? ['n', 'o', 't'] text with
  | some (c :: rest) => if Text.isBlank c then some (Text.trimStart rest) else none
  | _ => none

/-- Read `IN (:path)`. -/
def takeMembership? (text : List Char) : Option (Path × List Char) := do
  let rest ← takeWord? ['i', 'n'] text
  let rest ← Text.takeChar? '(' (Text.trimStart rest)
  let rest ← Text.takeChar? ':' (Text.trimStart rest)
  let (path, rest) ← Path.take? isLetterInAnyCase rest
  let rest ← Text.takeChar? ')' (Text.trimStart rest)
  some (path, rest)

/-- The clause which text starts with, and the text after it. -/
def InClause.take? (text : List Char) : Option (InClause × List Char) := do
  let unnegated := takeNot? text
  let (path, rest) ← takeMembership? (unnegated.getD text)
  some (⟨unnegated.isSome, path, text.take (text.length - rest.length)⟩, rest)

/-- The comparison with an array. -/
def InClause.comparison (clause : InClause) : List Char :=
  (if clause.negated then ['!', '=', 'A', 'L', 'L', '(', ':'] else ['=', 'A', 'N', 'Y', '(', ':'])
    ++ clause.path.chars ++ [')']

/-- Trimming does not lengthen text. -/
theorem length_trimStart_le (text : List Char) : (Text.trimStart text).length ≤ text.length :=
  (List.dropWhile_suffix _).length_le

/-- A word takes up its own length. -/
theorem length_of_takeWord? {word text rest : List Char} (h : takeWord? word text = some rest) :
    rest.length + word.length = text.length := by
  fun_induction takeWord? word text with
  | case1 text => simp_all
  | case2 => simp at h
  | case3 word c text ih =>
    have := ih h
    simp only [List.length_cons]
    omega
  | case4 => simp at h

/-- Reading a character consumes text. -/
theorem length_of_takeChar? {c : Char} {text rest : List Char}
    (h : Text.takeChar? c text = some rest) : rest.length < text.length := by
  cases text with
  | nil => simp [Text.takeChar?] at h
  | cons first tail =>
    simp only [Text.takeChar?] at h
    split at h
    · simp_all
    · simp at h

/-- Reading a negation consumes text. -/
theorem length_le_of_takeNot? {text rest : List Char} (h : takeNot? text = some rest) :
    rest.length ≤ text.length := by
  simp only [takeNot?] at h
  split at h
  · next c tail found =>
    split at h
    · have consumed := length_of_takeWord? found
      have trimmed := length_trimStart_le tail
      simp only [Option.some.injEq] at h
      simp only [List.length_cons, List.length_nil] at consumed
      rw [← h]
      omega
    · simp at h
  · simp at h

/-- Reading a membership consumes text. -/
theorem length_lt_of_takeMembership? {text rest : List Char} {path : Path}
    (h : takeMembership? text = some (path, rest)) : rest.length < text.length := by
  simp only [takeMembership?, Option.bind_eq_bind, Option.bind_eq_some_iff, Option.some.injEq,
    Prod.mk.injEq] at h
  obtain ⟨afterWord, word, afterOpen, opened, afterColon, colon, ⟨found, afterPath⟩, taken,
    afterClose, close, samePath, sameRest⟩ := h
  simp only at close
  have := length_of_takeWord? word
  have := length_of_takeChar? opened
  have := length_of_takeChar? colon
  have := Path.length_lt_of_take? taken
  have := length_of_takeChar? close
  have := length_trimStart_le afterWord
  have := length_trimStart_le afterOpen
  have := length_trimStart_le afterPath
  subst sameRest
  omega

/-- Reading a clause consumes text. -/
theorem InClause.length_lt_of_take? {text rest : List Char} {clause : InClause}
    (h : InClause.take? text = some (clause, rest)) : rest.length < text.length := by
  simp only [InClause.take?, Option.bind_eq_bind, Option.bind_eq_some_iff, Option.some.injEq,
    Prod.mk.injEq] at h
  obtain ⟨⟨path, remaining⟩, membership, _, same⟩ := h
  have consumed := length_lt_of_takeMembership? membership
  cases unnegated : takeNot? text with
  | none => simp_all
  | some start =>
    have := length_le_of_takeNot? unnegated
    simp only [unnegated, Option.getD_some] at consumed
    simp only at same
    subst same
    omega

/-- A character of SQL text, or a clause. -/
inductive Segment where
  | char (c : Char)
  | clause (clause : InClause)
deriving DecidableEq

/-- The segments of text after the given character.  The search for clauses
goes from left to right, and goes on after each clause. -/
def segments (before : Option Char) (text : List Char) : List Segment :=
  match text with
  | [] => []
  | c :: rest =>
    match h : InClause.take? (c :: rest) with
    | some (clause, after) =>
      have := InClause.length_lt_of_take? h
      if before.any Text.isWord then .char c :: segments (some c) rest
      else .clause clause :: segments (some ')') after
    | none => .char c :: segments (some c) rest
termination_by text.length
decreasing_by all_goals simp_all only [List.length_cons] <;> omega

/-- Write segments, clauses outside quotations as comparisons if their path
addresses a list. -/
def writeSegments (isList : Path → Bool) : Quotation → List Segment → List Char
  | _, [] => []
  | state, .char c :: rest => c :: writeSegments isList (state.step c) rest
  | state, .clause clause :: rest =>
    (if state = .outside ∧ isList clause.path then clause.comparison else clause.written) ++
      writeSegments isList state rest

/-- Write the clauses over lists in SQL text as comparisons with arrays. -/
def replaceClauses (isList : Path → Bool) (sql : List Char) : List Char :=
  writeSegments isList .outside (segments none sql)

end NamedSql.Sql
