import NamedSql.Proofs.Sql.Clauses

/-!
# Text after its clauses are written anew

Clauses and comparisons neither quote nor contain unnamed positions, so that writing clauses
anew leaves the quotations of a text as they are, and the text as free of unnamed positions.
-/

namespace NamedSql.Sql

/-- A segment as it stands in the text. -/
def Segment.chars : Segment → List Char
  | .char c => [c]
  | .clause found => found.written

/-- The text of segments. -/
def source (segments : List Segment) : List Char :=
  segments.flatMap Segment.chars

@[simp]
theorem source_cons (segment : Segment) (rest : List Segment) :
    source (segment :: rest) = segment.chars ++ source rest :=
  rfl

@[simp]
theorem source_append (first second : List Segment) :
    source (first ++ second) = source first ++ source second :=
  List.flatMap_append

/-- Segments after the given character: a clause begins where a word can. -/
inductive Segmented : Option Char → List Segment → Prop where
  | nil (before : Option Char) : Segmented before []
  | char {before : Option Char} {c : Char} {rest : List Segment}
      (following : Segmented (some c) rest) : Segmented before (.char c :: rest)
  | clause {before : Option Char} {clause : InClause} {rest : List Segment}
      (found : clause.Found) (begins : before.any Text.isWord = false)
      (following : Segmented (some ')') rest) : Segmented before (.clause clause :: rest)

theorem segmented_segments (before : Option Char) (text : List Char) :
    Segmented before (segments before text) := by
  fun_induction segments before text with
  | case1 before => exact .nil before
  | case2 before c rest clause following taken _ _ inductionHypothesis =>
      exact .char inductionHypothesis
  | case3 before c rest clause following taken _ begins inductionHypothesis =>
      exact .clause (InClause.found_of_take? taken).1 (Bool.not_eq_true _ ▸ begins)
        inductionHypothesis
  | case4 before c rest _ inductionHypothesis => exact .char inductionHypothesis

/-- Segments make up the text. -/
@[simp]
theorem source_segments (before : Option Char) (text : List Char) :
    source (segments before text) = text := by
  fun_induction segments before text with
  | case1 => rfl
  | case2 before c rest clause following taken _ _ inductionHypothesis =>
      rw [source_cons, inductionHypothesis]
      rfl
  | case3 before c rest clause following taken _ _ inductionHypothesis =>
      rw [source_cons, inductionHypothesis, (InClause.found_of_take? taken).2]
      rfl
  | case4 before c rest _ inductionHypothesis =>
      rw [source_cons, inductionHypothesis]
      rfl

/-! ## Nothing of a clause quotes -/

/-- A parenthesized path has no quotes. -/
theorem Parenthesized.plain {path : Path} {text : List Char}
    (named : path.IsNamed isLetterInAnyCase) (parenthesized : Parenthesized path text) :
    Quotation.Plain text := by
  obtain ⟨opening, closing, opens, closes, _, rfl⟩ := parenthesized
  apply opens.neutral.plain.append
  apply Quotation.Plain.cons rfl
  exact ((named.neutral letters_isLetterInAnyCase).append closes.neutral).plain

/-- A parenthesized path has no unnamed position. -/
theorem Parenthesized.hasUnnamed {path : Path} {text : List Char}
    (named : path.IsNamed isLetterInAnyCase) (parenthesized : Parenthesized path text)
    (state : Quotation) : Quotation.hasUnnamed state text = false := by
  obtain ⟨opening, closing, opens, closes, _, rfl⟩ := parenthesized
  have neutral := (named.neutral letters_isLetterInAnyCase).append closes.neutral
  rw [Quotation.hasUnnamed_append, opens.neutral.hasUnnamed, Quotation.hasUnnamed,
    neutral.hasUnnamed, Bool.or_false]
  exact Bool.and_false _

namespace InClause

variable {clause : InClause}

theorem Found.plain (found : clause.Found) : Quotation.Plain clause.written := by
  obtain ⟨keyword, enclosed, isKeyword, parenthesized, written⟩ := found.spelled
  rw [written]
  exact isKeyword.neutral.plain.append (parenthesized.plain found.named)

theorem Found.hasUnnamed (found : clause.Found) (state : Quotation) :
    Quotation.hasUnnamed state clause.written = false := by
  obtain ⟨keyword, enclosed, isKeyword, parenthesized, written⟩ := found.spelled
  rw [written, Quotation.hasUnnamed_append, isKeyword.neutral.hasUnnamed,
    parenthesized.hasUnnamed found.named]
  rfl

end InClause

/-! ## What writing anew keeps -/

variable (isList : Path → Bool) {before : Option Char} {segments : List Segment}

theorem Segmented.quotations_eq (segmented : Segmented before segments) {state : Quotation}
    (proper : state.Proper) :
    Quotation.quotations state (writeSegments isList state segments) =
      Quotation.quotations state (source segments) := by
  induction segmented generalizing state with
  | nil => rfl
  | char _ inductionHypothesis =>
      exact Quotation.quotations_cons_congr (inductionHypothesis (proper.step _))
  | @clause before clause rest found _ _ inductionHypothesis =>
      rw [writeSegments, source_cons, Segment.chars]
      have goesOn := found.plain.after_eq proper
      by_cases anew : state = .outside ∧ isList clause.path
      · rw [if_pos anew]
        obtain ⟨rfl, _⟩ := anew
        have comparison := clause.parenthesized_comparison.plain found.named
        rw [comparison.quotations_append, found.plain.quotations_append,
          inductionHypothesis proper]
      · rw [if_neg anew]
        apply Quotation.quotations_append_congr
        rw [goesOn]
        exact inductionHypothesis proper

theorem Segmented.hasUnnamed_eq (segmented : Segmented before segments) {state : Quotation}
    (proper : state.Proper) :
    Quotation.hasUnnamed state (writeSegments isList state segments) =
      Quotation.hasUnnamed state (source segments) := by
  induction segmented generalizing state with
  | nil => rfl
  | char _ inductionHypothesis =>
      rw [writeSegments, source_cons, Segment.chars, List.singleton_append,
        Quotation.hasUnnamed, Quotation.hasUnnamed, inductionHypothesis (proper.step _)]
  | @clause before clause rest found _ _ inductionHypothesis =>
      rw [writeSegments, source_cons, Segment.chars, Quotation.hasUnnamed_append,
        Quotation.hasUnnamed_append, found.hasUnnamed, found.plain.after_eq proper,
        Bool.false_or]
      by_cases anew : state = .outside ∧ isList clause.path
      · have comparison := clause.parenthesized_comparison
        rw [if_pos anew, comparison.hasUnnamed found.named,
          (comparison.plain found.named).after_eq proper]
        exact inductionHypothesis proper
      · rw [if_neg anew, found.hasUnnamed, found.plain.after_eq proper]
        exact inductionHypothesis proper

/-- Writing clauses anew leaves quotations as they are. -/
theorem quotations_replaceClauses (sql : List Char) :
    Quotation.quotations .outside (replaceClauses isList sql) =
      Quotation.quotations .outside sql := by
  have kept := (segmented_segments none sql).quotations_eq isList Quotation.proper_outside
  rwa [source_segments] at kept

/-- Writing clauses anew adds no unnamed position. -/
theorem hasUnnamed_replaceClauses (sql : List Char) :
    Quotation.hasUnnamed .outside (replaceClauses isList sql) =
      Quotation.hasUnnamed .outside sql := by
  have kept := (segmented_segments none sql).hasUnnamed_eq isList Quotation.proper_outside
  rwa [source_segments] at kept

end NamedSql.Sql
