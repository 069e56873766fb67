import NamedSql.Proofs.Sql.Rewriting

/-!
# Searching text part by part

The search for clauses goes on after a text as it would from there, unless a clause which begins
in the text goes on after it.  Writing clauses anew does the same.
-/

namespace NamedSql.Sql

/-! ## The search for clauses -/

section Search

variable {before : Option Char} {first second : List Char}

theorem segments_char {c : Char} {rest : List Char}
    (within : ∀ clause following, InClause.take? (c :: rest) = some (clause, following) →
      before.any Text.isWord = true) :
    segments before (c :: rest) = .char c :: segments (some c) rest := by
  rw [segments]
  split
  · next taken => rw [if_pos (within _ _ taken)]
  · rfl

theorem segments_clause {text rest : List Char} {clause : InClause}
    (taken : InClause.take? text = some (clause, rest))
    (begins : before.any Text.isWord = false) :
    segments before text = .clause clause :: segments (some ')') rest := by
  cases text with
  | nil => exact absurd (InClause.length_lt_of_take? taken) (Nat.not_lt_zero _)
  | cons c tail =>
      rw [segments]
      split
      · next found =>
        cases taken.symm.trans found
        rw [begins]
        rfl
      · next absent =>
        rw [absent] at taken
        cases taken

/-- The last character of a text after the given one. -/
def lastFrom (before : Option Char) (text : List Char) : Option Char :=
  text.getLast?.or before

@[simp]
theorem lastFrom_none (text : List Char) : lastFrom none text = text.getLast? :=
  Option.or_none

@[simp]
theorem lastFrom_cons (before : Option Char) (c : Char) (text : List Char) :
    lastFrom before (c :: text) = lastFrom (some c) text := by
  cases text <;> rfl

@[simp]
theorem lastFrom_append (before : Option Char) (first second : List Char) :
    lastFrom before (first ++ second) = lastFrom (lastFrom before first) second := by
  rw [lastFrom, List.getLast?_append, Option.or_assoc]
  rfl

theorem Spelled.lastFrom_eq {negated : Bool} {path : Path} {text : List Char}
    (spelled : Spelled negated path text) : lastFrom before text = some ')' := by
  obtain ⟨lead, _, _, ⟨opening, closing, _, _, rfl⟩, rfl⟩ := spelled
  simp [lastFrom, List.getLast?_cons]

/-- Every clause which begins in a text, after the given character, also ends in it, whatever
follows. -/
def Apart (before : Option Char) (first second : List Char) : Prop :=
  ∀ head tail clause rest, first = head ++ tail → tail ≠ [] →
    (lastFrom before head).any Text.isWord = false →
    InClause.take? (tail ++ second) = some (clause, rest) →
    ∃ between, tail = clause.written ++ between

theorem Apart.of_append {head tail : List Char} (apart : Apart before (head ++ tail) second) :
    Apart (lastFrom before head) tail second := by
  rintro front back clause rest rfl nonempty begins taken
  apply apart (head ++ front) back clause rest (List.append_assoc _ _ _).symm nonempty _ taken
  rwa [lastFrom_append]

theorem Apart.tail {c : Char} {rest : List Char} (apart : Apart before (c :: rest) second) :
    Apart (some c) rest second :=
  @Apart.of_append before second [c] rest apart

/-- The search goes on after a text as it would from there. -/
theorem Apart.segments_append (apart : Apart before first second) :
    segments before (first ++ second) =
      segments before first ++ segments (lastFrom before first) second := by
  fun_induction segments before first with
  | case1 before => rfl
  | case2 before c rest clause following taken _ notBegins inductionHypothesis =>
      rw [List.cons_append, segments_char fun _ _ _ => notBegins, inductionHypothesis apart.tail,
        lastFrom_cons, List.cons_append]
  | case3 before c rest clause following taken _ begins inductionHypothesis =>
      obtain ⟨named, spelled, whole⟩ := InClause.take?_eq_some_iff.mp taken
      rw [Bool.not_eq_true] at begins
      rw [whole] at apart ⊢
      have next : Apart (some ')') following second := by
        have := apart.of_append
        rwa [spelled.lastFrom_eq] at this
      have takenToo : InClause.take? (clause.written ++ following ++ second) =
          some (clause, following ++ second) :=
        InClause.take?_eq_some_iff.mpr ⟨named, spelled, List.append_assoc _ _ _⟩
      rw [segments_clause takenToo begins, inductionHypothesis next, lastFrom_append,
        spelled.lastFrom_eq]
      rfl
  | case4 before c rest absent inductionHypothesis =>
      have within : ∀ clause following,
          InClause.take? (c :: (rest ++ second)) = some (clause, following) →
            before.any Text.isWord = true := by
        intro clause following taken
        by_contra begins
        obtain ⟨between, whole⟩ := apart [] (c :: rest) clause following rfl
          (List.cons_ne_nil _ _) (Bool.not_eq_true _ ▸ begins) taken
        obtain ⟨named, spelled, -⟩ := InClause.take?_eq_some_iff.mp taken
        rw [InClause.take?_eq_some_iff.mpr ⟨named, spelled, whole⟩] at absent
        cases absent
      rw [List.cons_append, segments_char within, inductionHypothesis apart.tail, lastFrom_cons,
        List.cons_append]

/-- Where no clause begins, the search goes on character by character. -/
theorem segments_chars {text rest : List Char}
    (none : ∀ head tail, text = head ++ tail → tail ≠ [] → InClause.take? (tail ++ rest) = .none) :
    segments before (text ++ rest) = text.map .char ++ segments (lastFrom before text) rest := by
  induction text generalizing before with
  | nil => rfl
  | cons c text inductionHypothesis =>
      have here : InClause.take? (c :: (text ++ rest)) = .none :=
        none [] (c :: text) rfl (List.cons_ne_nil _ _)
      have within : ∀ clause following,
          InClause.take? (c :: (text ++ rest)) = some (clause, following) →
            before.any Text.isWord = true := by
        intro clause following taken
        rw [here] at taken
        cases taken
      have later : segments (some c) (text ++ rest) =
          text.map .char ++ segments (lastFrom (some c) text) rest :=
        inductionHypothesis fun head tail same nonempty =>
          none (c :: head) tail (congrArg _ same) nonempty
      rw [List.cons_append, segments_char within, later, lastFrom_cons, List.map_cons,
        List.cons_append]

end Search

/-! ## Writing text part by part -/

section Writing

variable (isList : Path → Bool) {state : Quotation} {before : Option Char} {first : List Segment}
  {text rest : List Char}

/-- After a text with its clauses written anew, the same quotation is open as after the text. -/
theorem Segmented.after_writeSegments (segmented : Segmented before first)
    (proper : state.Proper) :
    state.after (writeSegments isList state first) = state.after (source first) := by
  induction segmented generalizing state with
  | nil => rfl
  | char _ inductionHypothesis => exact inductionHypothesis (proper.step _)
  | @clause before clause rest found _ _ inductionHypothesis =>
      rw [writeSegments, source_cons, Segment.chars, Quotation.after_append,
        Quotation.after_append, found.plain.after_eq proper]
      split
      · rw [(clause.parenthesized_comparison.plain found.named).after_eq proper,
          inductionHypothesis proper]
      · rw [found.plain.after_eq proper, inductionHypothesis proper]

theorem Segmented.writeSegments_append (segmented : Segmented before first)
    (proper : state.Proper) (second : List Segment) :
    writeSegments isList state (first ++ second) =
      writeSegments isList state first ++
        writeSegments isList (state.after (source first)) second := by
  induction segmented generalizing state with
  | nil => rfl
  | char _ inductionHypothesis =>
      rw [List.cons_append, writeSegments, writeSegments, inductionHypothesis (proper.step _)]
      rfl
  | @clause before clause rest found _ _ inductionHypothesis =>
      rw [List.cons_append, writeSegments, writeSegments, inductionHypothesis proper, source_cons,
        Segment.chars, Quotation.after_append, found.plain.after_eq proper, List.append_assoc]

theorem writeSegments_chars (text : List Char) (rest : List Segment) :
    writeSegments isList state (text.map .char ++ rest) =
      text ++ writeSegments isList (state.after text) rest := by
  induction text generalizing state with
  | nil => rfl
  | cons c text inductionHypothesis =>
      rw [List.map_cons, List.cons_append, writeSegments, inductionHypothesis]
      rfl

theorem after_replaceClauses (text : List Char) :
    Quotation.outside.after (replaceClauses isList text) = Quotation.outside.after text := by
  rw [replaceClauses,
    (segmented_segments none text).after_writeSegments isList Quotation.proper_outside,
    source_segments]

theorem Apart.replaceClauses_append (apart : Apart none text rest)
    (outside : Quotation.outside.after text = .outside) :
    replaceClauses isList (text ++ rest) =
      replaceClauses isList text ++
        writeSegments isList .outside (segments text.getLast? rest) := by
  rw [replaceClauses, apart.segments_append,
    (segmented_segments none text).writeSegments_append isList Quotation.proper_outside,
    source_segments, outside, lastFrom_none]
  rfl

end Writing

end NamedSql.Sql
