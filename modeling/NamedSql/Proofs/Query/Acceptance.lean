import NamedSql.Proofs.Query.Values
import NamedSql.Proofs.Sql.ArrayContext
import NamedSql.Proofs.Sql.Placeholders

/-!
# Accepted queries

A query is refused for an unnamed position, and otherwise for its first placeholder which names
nothing or stands for a list where it cannot be bound.  Any other query is accepted.  What is
expected of a placeholder follows from the text before it, with the clauses of the declared text
written anew.
-/

namespace NamedSql

open Sql

/-- Only a list without a native array has no strategy, where SQL expects an array. -/
theorem BindStrategy.forKind?_eq_none_iff {kind : Kind} {arrayContext : Bool} :
    forKind? kind arrayContext = none ↔
      ∃ element, kind = .list element ∧ element.arrayType? = none ∧ arrayContext = true := by
  cases kind with
  | list element =>
      rw [forKind?]
      cases native : element.arrayType? with
      | some type => simp [native]
      | none => cases arrayContext <;> simp [native]
  | _ => simp [forKind?]

namespace Query

/-- A text with a question mark outside quotations. -/
def Unnamed (text : List Char) : Prop :=
  ∃ before after, text = before ++ '?' :: after ∧ Quotation.outside.after before = .outside

/-- A placeholder which can be bound after the given text: something is declared for its path,
which is no list without a native array if SQL expects an array. -/
def Accepted (parameters : List Parameter) (before : List Char) (path : Path) : Prop :=
  ∃ source kind, Declares parameters path source kind ∧
    ∀ element, kind = .list element → element.arrayType? = none → ¬EndsInArrayContext before

/-- Why a placeholder is refused after the given text: nothing is declared for its path, or a list
without a native array where SQL expects an array. -/
inductive Refused (method : String) (parameters : List Parameter) (before : List Char)
    (path : Path) : Error → Prop where
  | undeclared (absent : ∀ source kind, ¬Declares parameters path source kind) :
      Refused method parameters before path
        (.unresolvedParameter path.text (signature method parameters))
  | arrayless {source : ValueSource} {element : Kind}
      (declares : Declares parameters path source (.list element))
      (noArray : element.arrayType? = none) (expected : EndsInArrayContext before) :
      Refused method parameters before path (.unsupportedArrayType path.text element.display)

/-- Every placeholder among tokens can be bound, after the given text. -/
def AllAccepted (parameters : List Parameter) (before : List Char) (tokens : List Token) : Prop :=
  ∀ earlier path later, tokens = earlier ++ .placeholder path :: later →
    Accepted parameters (before ++ earlier.flatMap Token.chars) path

/-- The error is that of the first placeholder among tokens which cannot be bound, after the given
text. -/
def FirstRefused (method : String) (parameters : List Parameter) (before : List Char)
    (tokens : List Token) (error : Error) : Prop :=
  ∃ earlier path later, tokens = earlier ++ .placeholder path :: later ∧
    AllAccepted parameters before earlier ∧
    Refused method parameters (before ++ earlier.flatMap Token.chars) path error

variable {method : String} {parameters : List Parameter} {before reversed : List Char}
  {path : Path} {tokens rest : List Token} {position count : Nat} {error : Error}

theorem unnamed_iff {text : List Char} :
    Quotation.hasUnnamed .outside text = true ↔ Unnamed text :=
  Quotation.hasUnnamed_iff

/-! ## One placeholder -/

/-- A placeholder has a binder exactly if it can be bound after the text written so far. -/
theorem exists_binderFor_iff :
    (∃ binder, binderFor method parameters reversed position path = .ok binder) ↔
      Accepted parameters reversed.reverse path := by
  rw [Accepted, ← isArrayContext_reverse_iff, List.reverse_reverse]
  constructor
  · rintro ⟨binder, made⟩
    obtain ⟨-, -, kind, resolved, chosen⟩ := binderFor_eq_ok_iff.mp made
    refine ⟨binder.source, kind, resolve?_eq_some_iff.mp resolved, ?_⟩
    intro element listed noArray expected
    have none := BindStrategy.forKind?_eq_none_iff.mpr ⟨element, listed, noArray, expected⟩
    cases none.symm.trans chosen
  · rintro ⟨source, kind, declares, unexpected⟩
    obtain ⟨strategy, chosen⟩ : ∃ strategy,
        BindStrategy.forKind? kind (isArrayContext reversed) = some strategy := by
      rw [← Option.ne_none_iff_exists']
      intro none
      obtain ⟨element, listed, noArray, expected⟩ := BindStrategy.forKind?_eq_none_iff.mp none
      exact unexpected element listed noArray expected
    exact ⟨⟨position, path, source, strategy⟩, binderFor_eq_ok_iff.mpr
      ⟨rfl, rfl, kind, resolve?_eq_some_iff.mpr declares, chosen⟩⟩

/-- A placeholder without a binder has the error of what it is refused for. -/
theorem binderFor_eq_error_iff :
    binderFor method parameters reversed position path = .error error ↔
      Refused method parameters reversed.reverse path error := by
  constructor
  · intro failed
    rw [binderFor] at failed
    split at failed
    · next unresolved =>
      cases failed
      apply Refused.undeclared
      intro source kind declares
      cases unresolved.symm.trans (resolve?_eq_some_iff.mpr declares)
    · next source kind resolved =>
      split at failed
      · cases failed
      · next none =>
        obtain ⟨element, rfl, noArray, expected⟩ := BindStrategy.forKind?_eq_none_iff.mp none
        cases failed
        apply Refused.arrayless (resolve?_eq_some_iff.mp resolved) noArray
        rwa [← isArrayContext_reverse_iff, List.reverse_reverse]
  · intro refused
    cases refused with
    | undeclared absent =>
        have unresolved : resolve? parameters path = none := by
          rw [Option.eq_none_iff_forall_ne_some]
          rintro ⟨source, kind⟩ resolved
          exact absent source kind (resolve?_eq_some_iff.mp resolved)
        rw [binderFor, unresolved]
    | arrayless declares noArray expected =>
        rw [← isArrayContext_reverse_iff, List.reverse_reverse] at expected
        have none := BindStrategy.forKind?_eq_none_iff.mpr ⟨_, rfl, noArray, expected⟩
        simp only [binderFor, resolve?_eq_some_iff.mpr declares, none]

/-- Whether a placeholder can be bound depends on the array contexts before it alone. -/
theorem Accepted.congr {other : List Char}
    (same : EndsInArrayContext before ↔ EndsInArrayContext other) :
    Accepted parameters before path ↔ Accepted parameters other path := by
  rw [Accepted, Accepted, same]

theorem Refused.congr {other : List Char}
    (same : EndsInArrayContext before ↔ EndsInArrayContext other) :
    Refused method parameters before path error ↔ Refused method parameters other path error := by
  constructor
  · intro refused
    cases refused with
    | undeclared absent => exact .undeclared absent
    | arrayless declares noArray expected => exact .arrayless declares noArray (same.mp expected)
  · intro refused
    cases refused with
    | undeclared absent => exact .undeclared absent
    | arrayless declares noArray expected => exact .arrayless declares noArray (same.mpr expected)

/-! ## One token after the other -/

theorem allAccepted_nil : AllAccepted parameters before [] :=
  fun earlier _ _ whole => by simp at whole

theorem allAccepted_text {chars : List Char} :
    AllAccepted parameters before (.text chars :: rest) ↔
      AllAccepted parameters (before ++ chars) rest := by
  constructor
  · rintro accepted earlier path later rfl
    rw [List.append_assoc]
    exact accepted (.text chars :: earlier) path later rfl
  · intro accepted earlier path later whole
    cases earlier with
    | nil => cases whole
    | cons first earlier =>
        obtain ⟨rfl, remaining⟩ := List.cons.inj whole
        rw [List.flatMap_cons, ← List.append_assoc]
        exact accepted earlier path later remaining

theorem allAccepted_placeholder :
    AllAccepted parameters before (.placeholder path :: rest) ↔
      Accepted parameters before path ∧
        AllAccepted parameters (before ++ ':' :: path.chars) rest := by
  constructor
  · intro accepted
    constructor
    · simpa using accepted [] path rest rfl
    · rintro earlier other later rfl
      rw [List.append_assoc]
      exact accepted (.placeholder path :: earlier) other later rfl
  · rintro ⟨accepted, others⟩ earlier other later whole
    cases earlier with
    | nil =>
        cases whole
        simpa using accepted
    | cons first earlier =>
        obtain ⟨rfl, remaining⟩ := List.cons.inj whole
        rw [List.flatMap_cons, ← List.append_assoc]
        exact others earlier other later remaining

theorem not_firstRefused_nil : ¬FirstRefused method parameters before [] error := by
  rintro ⟨earlier, _, _, whole, -⟩
  simp at whole

theorem firstRefused_text {chars : List Char} :
    FirstRefused method parameters before (.text chars :: rest) error ↔
      FirstRefused method parameters (before ++ chars) rest error := by
  constructor
  · rintro ⟨earlier, path, later, whole, accepted, refused⟩
    cases earlier with
    | nil => cases whole
    | cons first earlier =>
        obtain ⟨rfl, remaining⟩ := List.cons.inj whole
        rw [List.flatMap_cons, ← List.append_assoc] at refused
        exact ⟨earlier, path, later, remaining, allAccepted_text.mp accepted, refused⟩
  · rintro ⟨earlier, path, later, rfl, accepted, refused⟩
    refine ⟨.text chars :: earlier, path, later, rfl, allAccepted_text.mpr accepted, ?_⟩
    rw [List.flatMap_cons, ← List.append_assoc]
    exact refused

theorem firstRefused_placeholder :
    FirstRefused method parameters before (.placeholder path :: rest) error ↔
      Refused method parameters before path error ∨
        Accepted parameters before path ∧
          FirstRefused method parameters (before ++ ':' :: path.chars) rest error := by
  constructor
  · rintro ⟨earlier, other, later, whole, accepted, refused⟩
    cases earlier with
    | nil =>
        cases whole
        exact .inl (by simpa using refused)
    | cons first earlier =>
        obtain ⟨rfl, remaining⟩ := List.cons.inj whole
        obtain ⟨here, others⟩ := allAccepted_placeholder.mp accepted
        rw [List.flatMap_cons, ← List.append_assoc] at refused
        exact .inr ⟨here, earlier, other, later, remaining, others, refused⟩
  · rintro (refused | ⟨here, earlier, other, later, rfl, accepted, refused⟩)
    · exact ⟨[], path, rest, rfl, allAccepted_nil, by simpa using refused⟩
    · refine ⟨.placeholder path :: earlier, other, later, rfl,
        allAccepted_placeholder.mpr ⟨here, accepted⟩, ?_⟩
      rw [List.flatMap_cons, ← List.append_assoc]
      exact refused

/-! ## All tokens -/

theorem error?_positional_text {chars : List Char} :
    error? (positional method parameters reversed count (.text chars :: rest)) =
      error? (positional method parameters (chars.reverse ++ reversed) count rest) := by
  rw [positional]
  cases positional method parameters (chars.reverse ++ reversed) count rest <;> rfl

/-- The error of the first placeholder comes before those of the others. -/
theorem error?_positional_placeholder :
    error? (positional method parameters reversed count (.placeholder path :: rest)) =
      (error? (binderFor method parameters reversed (count + 1) path)).or
        (error? (positional method parameters ('?' :: reversed) (count + 1) rest)) := by
  rw [positional]
  cases binderFor method parameters reversed (count + 1) path with
  | error _ => rfl
  | ok _ => cases positional method parameters ('?' :: reversed) (count + 1) rest <;> rfl

/-- Positions are found for tokens exactly if each of their placeholders can be bound, and else
fail with the error of the first one which cannot.  The text written so far may have positions in
place of the placeholders before. -/
theorem error?_positional (same : SameContexts reversed.reverse before)
    (named : ∀ path ∈ placeholders tokens, path.IsNamed Char.isAlpha) :
    (error? (positional method parameters reversed count tokens) = none ↔
      AllAccepted parameters before tokens) ∧
    ∀ error, error? (positional method parameters reversed count tokens) = some error ↔
      FirstRefused method parameters before tokens error := by
  induction tokens generalizing reversed before count with
  | nil =>
      constructor
      · exact iff_of_true rfl allAccepted_nil
      · exact fun error => iff_of_false (Option.some_ne_none error).symm not_firstRefused_nil
  | cons token rest inductionHypothesis =>
      cases token with
      | text chars =>
          have sameThen : SameContexts (chars.reverse ++ reversed).reverse (before ++ chars) := by
            rw [List.reverse_append, List.reverse_reverse]
            exact same.append chars
          rw [error?_positional_text, allAccepted_text]
          simp only [firstRefused_text]
          exact inductionHypothesis sameThen named
      | placeholder path =>
          obtain ⟨isNamed, othersNamed⟩ := List.forall_mem_cons.mp named
          have sameThen : SameContexts ('?' :: reversed).reverse (before ++ ':' :: path.chars) := by
            rw [List.reverse_cons]
            exact .placeholder reversed.reverse before isNamed
          obtain ⟨succeeds, fails⟩ := @inductionHypothesis _ _ (count + 1) sameThen othersNamed
          have admits : error? (binderFor method parameters reversed (count + 1) path) = none ↔
              Accepted parameters before path := by
            rw [error?_eq_none_iff, exists_binderFor_iff, Accepted.congr same.ends_iff]
          have refuses (error : Error) :
              error? (binderFor method parameters reversed (count + 1) path) = some error ↔
                Refused method parameters before path error := by
            rw [error?_eq_some_iff, binderFor_eq_error_iff, Refused.congr same.ends_iff]
          rw [error?_positional_placeholder, allAccepted_placeholder, Option.or_eq_none_iff, admits,
            succeeds]
          constructor
          · exact Iff.rfl
          · intro error
            rw [firstRefused_placeholder, Option.or_eq_some_iff, admits, refuses, fails]

/-- What is wrong with a parsed text is an unnamed position, or else a placeholder of the text with
its clauses written anew. -/
theorem error?_parse (sql : String) :
    error? (parse method sql parameters) =
      if Quotation.hasUnnamed .outside sql.toList then some (.unsupportedQuery sql)
      else error? (positional method parameters [] 0
        (tokenize (replaceClauses (addressesList parameters) sql.toList))) := by
  rw [parse]
  split
  · rfl
  · dsimp only
    cases positional method parameters [] 0
      (tokenize (replaceClauses (addressesList parameters) sql.toList)) <;> rfl

/-- A query is parsed exactly if it has no question mark outside quotations and every placeholder
of its text with the clauses written anew can be bound: something is declared for each of them,
and none is a list without a native array after an equals sign, `ANY` or `ALL`, and a
parenthesis.  Question marks outside quotations are refused first, by echoing the declared text,
and no other text is refused so.  Otherwise the error is that of the first placeholder which cannot
be bound: that it is unresolved if nothing is declared for it, else that its list has no array
type. -/
theorem parse_decided (method sql : String) (parameters : List Parameter) :
    let tokens := tokenize (replaceClauses (addressesList parameters) sql.toList)
    (∀ text, parse method sql parameters = .error (.unsupportedQuery text) ↔
      Unnamed sql.toList ∧ text = sql) ∧
    ((∃ query, parse method sql parameters = .ok query) ↔
      ¬Unnamed sql.toList ∧ AllAccepted parameters [] tokens) ∧
    ∀ error, parse method sql parameters = .error error ↔
      Unnamed sql.toList ∧ error = .unsupportedQuery sql ∨
        ¬Unnamed sql.toList ∧ FirstRefused method parameters [] tokens error := by
  intro tokens
  have named : ∀ path ∈ placeholders tokens, path.IsNamed Char.isAlpha := isNamed_of_mem_tokenize
  obtain ⟨succeeds, fails⟩ :=
    @error?_positional method parameters [] [] tokens 0 (fun _ => Iff.rfl) named
  have failure (error : Error) : parse method sql parameters = .error error ↔
      Unnamed sql.toList ∧ error = .unsupportedQuery sql ∨
        ¬Unnamed sql.toList ∧ FirstRefused method parameters [] tokens error := by
    rw [← error?_eq_some_iff, error?_parse, ← unnamed_iff]
    split
    · next unnamed => simp [unnamed, eq_comm]
    · next allNamed => simp [allNamed, ← fails, tokens]
  constructor
  · intro text
    rw [failure]
    constructor
    · rintro (⟨unnamed, same⟩ | ⟨-, _, _, _, -, -, refused⟩)
      · exact ⟨unnamed, Error.unsupportedQuery.inj same⟩
      · cases refused
    · rintro ⟨unnamed, rfl⟩
      exact .inl ⟨unnamed, rfl⟩
  · constructor
    · rw [← error?_eq_none_iff, error?_parse, ← unnamed_iff]
      split
      · next unnamed => simp [unnamed]
      · next allNamed => simp [allNamed, ← succeeds, tokens]
    · exact failure

-- The clause is written anew, and only then SQL expects an array.
example : error? (parse "find" "WHERE flag IN (:flags)" [("flags", .list .bool)]) =
    some (.unsupportedArrayType "flags" "bool") := by
  decide +kernel

end Query

end NamedSql
