import NamedSql.Proofs.Sql.Spellings
import NamedSql.Sql.ArrayContext
import NamedSql.Sql.Token
import Mathlib.Data.List.Basic

/-!
# Where SQL expects an array

A text is recognized exactly if it ends with an equals sign, `ANY` or `ALL`, and an opening
parenthesis.  What its placeholders are written as does not matter: none of these parts goes on
before a placeholder.
-/

namespace NamedSql.Sql

/-- The keywords of comparisons with an array. -/
def arrayKeywords : List (List Char) :=
  [['A', 'N', 'Y'], ['A', 'L', 'L']]

/-- What follows the equals sign of a comparison with an array, up to its parenthesis: a keyword
and the parenthesis, with any blanks around each of them. -/
def OpensArray (text : List Char) : Prop :=
  ∃ beforeKeyword keyword beforeParenthesis afterParenthesis, Blanks beforeKeyword ∧
    keyword ∈ arrayKeywords ∧ Blanks beforeParenthesis ∧ Blanks afterParenthesis ∧
    text = beforeKeyword ++ (keyword ++ (beforeParenthesis ++ '(' :: afterParenthesis))

/-- Text which ends where SQL expects an array. -/
def EndsInArrayContext (text : List Char) : Prop :=
  ∃ front opening, OpensArray opening ∧ text = front ++ '=' :: opening

variable {text front rest : List Char} {c : Char}

/-! ## The reader is exact -/

theorem trimStart_eq_cons_iff (visible : Text.isBlank c = false) :
    Text.trimStart text = c :: rest ↔ ∃ blanks, Blanks blanks ∧ text = blanks ++ c :: rest := by
  constructor
  · intro trimmed
    obtain ⟨blanks, blank, whole⟩ := exists_blanks text
    exact ⟨blanks, blank, trimmed ▸ whole⟩
  · rintro ⟨blanks, blank, rfl⟩
    exact trimStart_append blank (by rintro _ ⟨⟩; exact visible)

theorem Blanks.reverse (blank : Blanks text) : Blanks text.reverse :=
  fun c among => blank c (List.mem_reverse.mp among)

/-- The parts of an array context are read from its end. -/
theorem isArrayContext_iff {reversed : List Char} :
    isArrayContext reversed = true ↔
      ∃ last keyword middle first front, Blanks last ∧ keyword ∈ arrayKeywords ∧ Blanks middle ∧
        Blanks first ∧
        reversed = last ++ '(' :: (middle ++ (keyword.reverse ++ (first ++ '=' :: front))) := by
  constructor
  · intro found
    rw [isArrayContext] at found
    split at found
    · next afterOpen opened =>
      obtain ⟨last, blankLast, rfl⟩ := (trimStart_eq_cons_iff rfl).mp opened
      split at found
      · next afterKeyword named =>
        obtain ⟨middle, blankMiddle, rfl⟩ := (trimStart_eq_cons_iff rfl).mp named
        obtain ⟨front, equals⟩ := List.head?_eq_some_iff.mp (beq_iff_eq.mp found)
        obtain ⟨first, blankFirst, rfl⟩ := (trimStart_eq_cons_iff rfl).mp equals
        exact ⟨last, _, middle, first, front, blankLast, List.mem_cons_self, blankMiddle,
          blankFirst, rfl⟩
      · next afterKeyword named =>
        obtain ⟨middle, blankMiddle, rfl⟩ := (trimStart_eq_cons_iff rfl).mp named
        obtain ⟨front, equals⟩ := List.head?_eq_some_iff.mp (beq_iff_eq.mp found)
        obtain ⟨first, blankFirst, rfl⟩ := (trimStart_eq_cons_iff rfl).mp equals
        exact ⟨last, _, middle, first, front, blankLast,
          List.mem_cons_of_mem _ List.mem_cons_self, blankMiddle, blankFirst, rfl⟩
      · cases found
    · cases found
  · rintro ⟨last, keyword, middle, first, front, blankLast, isKeyword, blankMiddle, blankFirst, rfl⟩
    have trimmed {c : Char} (visible : Text.isBlank c = false) {blanks : List Char}
        (blank : Blanks blanks) (rest : List Char) :
        Text.trimStart (blanks ++ c :: rest) = c :: rest :=
      (trimStart_eq_cons_iff visible).mpr ⟨blanks, blank, rfl⟩
    rw [isArrayContext, trimmed rfl blankLast]
    rcases List.mem_pair.mp isKeyword with rfl | rfl
    all_goals
      simp only [List.reverse_cons, List.reverse_nil, List.nil_append, List.cons_append]
      rw [trimmed rfl blankMiddle]
      exact beq_iff_eq.mpr (congrArg List.head? (trimmed rfl blankFirst front))

/-- Array contexts are recognized exactly. -/
theorem isArrayContext_reverse_iff :
    isArrayContext text.reverse = true ↔ EndsInArrayContext text := by
  rw [isArrayContext_iff]
  constructor
  · rintro ⟨last, keyword, middle, first, front, blankLast, isKeyword, blankMiddle, blankFirst,
      reversed⟩
    refine ⟨front.reverse, _, ⟨first.reverse, keyword, middle.reverse, last.reverse,
      blankFirst.reverse, isKeyword, blankMiddle.reverse, blankLast.reverse, rfl⟩, ?_⟩
    rw [← text.reverse_reverse, reversed]
    simp
  · rintro ⟨front, _, ⟨first, keyword, middle, last, blankFirst, isKeyword, blankMiddle, blankLast,
      rfl⟩, rfl⟩
    refine ⟨last.reverse, keyword, middle.reverse, first.reverse, front.reverse,
      blankLast.reverse, isKeyword, blankMiddle.reverse, blankFirst.reverse, ?_⟩
    simp

/-! ## Placeholders before an array context -/

/-- A character which no array context has. -/
structure Interrupts (c : Char) : Prop where
  visible : Text.isBlank c = false
  notInKeyword : ∀ keyword ∈ arrayKeywords, c ∉ keyword
  noParenthesis : c ≠ '('
  noEquals : c ≠ '='

theorem Interrupts.notMem {opening : List Char} (interrupts : Interrupts c)
    (opens : OpensArray opening) : c ∉ opening := by
  obtain ⟨first, keyword, middle, last, blankFirst, isKeyword, blankMiddle, blankLast, rfl⟩ := opens
  have shown {blanks : List Char} (blank : Blanks blanks) : c ∉ blanks := by
    intro among
    exact nomatch (blank c among).symm.trans interrupts.visible
  simp [shown blankFirst, interrupts.notInKeyword keyword isKeyword, shown blankMiddle,
    interrupts.noParenthesis, shown blankLast]

/-- Text without an equals sign does not matter to an array context after it. -/
theorem endsInArrayContext_append_iff (unequal : '=' ∉ front) :
    EndsInArrayContext (front ++ text) ↔ EndsInArrayContext text := by
  constructor
  · rintro ⟨before, opening, opens, same⟩
    rcases List.append_eq_append_iff.mp same with ⟨between, rfl, whole⟩ | ⟨between, rfl, whole⟩
    · exact ⟨between, opening, opens, whole⟩
    · cases between with
      | nil => exact ⟨[], opening, opens, whole.symm⟩
      | cons first between =>
          obtain ⟨rfl, -⟩ := List.cons.inj whole
          exact absurd (List.mem_append_right before List.mem_cons_self) unequal
  · rintro ⟨before, opening, opens, rfl⟩
    exact ⟨front ++ before, opening, opens, (List.append_assoc _ _ _).symm⟩

/-- Nor does any text before a character which interrupts array contexts. -/
theorem Interrupts.endsInArrayContext_iff (interrupts : Interrupts c) :
    EndsInArrayContext (front ++ c :: text) ↔ EndsInArrayContext text := by
  constructor
  · rintro ⟨before, opening, opens, same⟩
    rcases List.append_eq_append_iff.mp same with ⟨between, rfl, whole⟩ | ⟨between, rfl, whole⟩
    · cases between with
      | nil => exact absurd (List.cons.inj whole).1 interrupts.noEquals
      | cons first between => exact ⟨between, opening, opens, (List.cons.inj whole).2⟩
    · cases between with
      | nil => exact absurd (List.cons.inj whole).1.symm interrupts.noEquals
      | cons first between =>
          obtain ⟨-, rfl⟩ := List.cons.inj whole
          exact absurd (List.mem_append_right between List.mem_cons_self) (interrupts.notMem opens)
  · rintro ⟨before, opening, opens, rfl⟩
    exact ⟨front ++ c :: before, opening, opens, by
      rw [List.append_assoc, List.cons_append]⟩

theorem interrupts_colon : Interrupts ':' :=
  ⟨rfl, by decide, by decide, by decide⟩

theorem interrupts_position : Interrupts '?' :=
  ⟨rfl, by decide, by decide, by decide⟩

theorem Path.IsNamed.equals_notMem {path : Path} (named : path.IsNamed Char.isAlpha) :
    '=' ∉ path.chars := by
  intro among
  rcases named.continuesName_or_dot among with continues | dot
  · cases continues
  · cases dot

/-- Texts which the same array contexts follow. -/
def SameContexts (first second : List Char) : Prop :=
  ∀ text, EndsInArrayContext (first ++ text) ↔ EndsInArrayContext (second ++ text)

namespace SameContexts

variable {first second : List Char}

theorem append (same : SameContexts first second) (text : List Char) :
    SameContexts (first ++ text) (second ++ text) := by
  intro rest
  rw [List.append_assoc, List.append_assoc]
  exact same (text ++ rest)

/-- A position does not matter to array contexts any more than the placeholder it stands for. -/
theorem placeholder (first second : List Char) {path : Path}
    (named : path.IsNamed Char.isAlpha) :
    SameContexts (first ++ ['?']) (second ++ ':' :: path.chars) := by
  intro text
  rw [List.append_assoc, List.append_assoc, List.cons_append, List.cons_append, List.nil_append,
    interrupts_position.endsInArrayContext_iff, interrupts_colon.endsInArrayContext_iff,
    endsInArrayContext_append_iff named.equals_notMem]

theorem ends_iff (same : SameContexts first second) :
    EndsInArrayContext first ↔ EndsInArrayContext second := by
  simpa using same []

end SameContexts

end NamedSql.Sql
