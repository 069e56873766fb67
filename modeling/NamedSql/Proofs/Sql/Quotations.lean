import NamedSql.Sql.Quotation

/-!
# The quotations of SQL text

What is quoted in a text depends on its quotes alone: unquoted text without quotes can be
put in place of other such text.
-/

namespace NamedSql.Sql.Quotation

/-- The quotations of text from a state on, quotes included.  The last one may not be
closed. -/
def quotations : Quotation → List Char → List (List Char)
  | .outside, [] => []
  | .inside _, [] => [[]]
  | .outside, c :: rest =>
    if isQuote c then (quotations (.inside c) rest).modifyHead (c :: ·)
    else quotations .outside rest
  | .inside quote, c :: rest =>
    if c = quote then [c] :: quotations .outside rest
    else (quotations (.inside quote) rest).modifyHead (c :: ·)

/-- Text without quotes. -/
def Plain (text : List Char) : Prop :=
  ∀ c ∈ text, isQuote c = false

theorem Plain.append {first second : List Char} (left : Plain first) (right : Plain second) :
    Plain (first ++ second) :=
  List.forall_mem_append.mpr ⟨left, right⟩

theorem Plain.cons {c : Char} {text : List Char} (first : isQuote c = false) (rest : Plain text) :
    Plain (c :: text) :=
  List.forall_mem_cons.mpr ⟨first, rest⟩

theorem Plain.tail {c : Char} {text : List Char} (plain : Plain (c :: text)) : Plain text :=
  fun other later => plain other (List.mem_cons_of_mem c later)

theorem Plain.step {c : Char} (plain : isQuote c = false) :
    Quotation.outside.step c = .outside := by
  simp [Quotation.step, plain]

/-- Plain text ends no quotation and opens none. -/
theorem Plain.after {text : List Char} (plain : Plain text) :
    Quotation.outside.after text = .outside := by
  induction text with
  | nil => rfl
  | cons c text inductionHypothesis =>
      rw [after_cons, Plain.step (plain c List.mem_cons_self)]
      exact inductionHypothesis plain.tail

/-- A state which text can be in: a quotation is closed by a quote. -/
def Proper : Quotation → Prop
  | .outside => True
  | .inside quote => isQuote quote = true

theorem proper_outside : Proper .outside :=
  trivial

theorem Proper.step {state : Quotation} (proper : Proper state) (c : Char) :
    Proper (state.step c) := by
  cases state with
  | outside =>
      rw [Quotation.step]
      split
      · assumption
      · trivial
  | inside quote =>
      rw [Quotation.step]
      split
      · trivial
      · exact proper

theorem Proper.after {state : Quotation} (proper : Proper state) (text : List Char) :
    Proper (state.after text) := by
  induction text generalizing state with
  | nil => exact proper
  | cons c text inductionHypothesis => exact inductionHypothesis (proper.step c)

/-- Plain text goes on with a quotation as well. -/
theorem Plain.after_eq {state : Quotation} (proper : Proper state) {text : List Char}
    (plain : Plain text) : state.after text = state := by
  cases state with
  | outside => exact plain.after
  | inside quote =>
      induction text with
      | nil => rfl
      | cons c text inductionHypothesis =>
          have different : c ≠ quote := by
            rintro rfl
            exact nomatch proper.symm.trans (plain c List.mem_cons_self)
          rw [after_cons, Quotation.step, if_neg different]
          exact inductionHypothesis plain.tail

/-- Text has no more quotations for unquoted text without quotes before it. -/
theorem Plain.quotations_append {text : List Char} (plain : Plain text) (rest : List Char) :
    quotations .outside (text ++ rest) = quotations .outside rest := by
  induction text with
  | nil => rfl
  | cons c text inductionHypothesis =>
      rw [List.cons_append, quotations, plain c List.mem_cons_self, if_neg Bool.false_ne_true]
      exact inductionHypothesis plain.tail

/-- Texts with the same quotations have the same ones after a common character. -/
theorem quotations_cons_congr {state : Quotation} {c : Char} {first second : List Char}
    (same : quotations (state.step c) first = quotations (state.step c) second) :
    quotations state (c :: first) = quotations state (c :: second) := by
  cases state with
  | outside =>
      rw [quotations, quotations]
      by_cases opens : isQuote c = true
      · rw [Quotation.step, if_pos opens] at same
        rw [if_pos opens, if_pos opens, same]
      · rw [Quotation.step, if_neg opens] at same
        rw [if_neg opens, if_neg opens, same]
  | inside quote =>
      rw [quotations, quotations]
      by_cases closes : c = quote
      · rw [Quotation.step, if_pos closes] at same
        rw [if_pos closes, if_pos closes, same]
      · rw [Quotation.step, if_neg closes] at same
        rw [if_neg closes, if_neg closes, same]

theorem quotations_append_congr {state : Quotation} (common : List Char) {first second : List Char}
    (same : quotations (state.after common) first = quotations (state.after common) second) :
    quotations state (common ++ first) = quotations state (common ++ second) := by
  induction common generalizing state with
  | nil => exact same
  | cons c common inductionHypothesis => exact quotations_cons_congr (inductionHypothesis same)

theorem hasUnnamed_append (state : Quotation) (first second : List Char) :
    hasUnnamed state (first ++ second) =
      (hasUnnamed state first || hasUnnamed (state.after first) second) := by
  induction first generalizing state with
  | nil => rfl
  | cons c first inductionHypothesis =>
      rw [List.cons_append, hasUnnamed, hasUnnamed, inductionHypothesis, Bool.or_assoc, after_cons]

/-- Exactly the texts with a question mark outside quotations have an unnamed position. -/
theorem hasUnnamed_iff {state : Quotation} {text : List Char} :
    hasUnnamed state text = true ↔
      ∃ before after, text = before ++ '?' :: after ∧ state.after before = .outside := by
  induction text generalizing state with
  | nil => simp [hasUnnamed]
  | cons c text inductionHypothesis =>
      rw [hasUnnamed, Bool.or_eq_true, Bool.and_eq_true, beq_iff_eq, beq_iff_eq,
        inductionHypothesis]
      constructor
      · rintro (⟨rfl, rfl⟩ | ⟨before, after, rfl, outside⟩)
        · exact ⟨[], text, rfl, rfl⟩
        · exact ⟨c :: before, after, rfl, outside⟩
      · rintro ⟨before, after, whole, outside⟩
        cases before with
        | nil => exact .inl ⟨outside, (List.cons.inj whole).1⟩
        | cons first before =>
            obtain ⟨rfl, rfl⟩ := List.cons.inj whole
            exact .inr ⟨before, after, rfl, outside⟩

/-- A text has no unnamed position if none of its parts has one. -/
theorem Plain.hasUnnamed_around {before middle after : List Char} (plain : Plain middle)
    (unmarked : hasUnnamed .outside middle = false)
    (allNamed : hasUnnamed .outside before = false)
    (outside : Quotation.outside.after before = .outside)
    (allNamedAfter : hasUnnamed .outside after = false) :
    hasUnnamed .outside (before ++ (middle ++ after)) = false := by
  rw [hasUnnamed_append, hasUnnamed_append, allNamed, outside, unmarked, plain.after,
    allNamedAfter]
  rfl

/-! ## Neutral text -/

/-- A character which neither quotes nor marks a position or a placeholder. -/
def isNeutral (c : Char) : Bool :=
  !isQuote c && c != '?' && c != ':'

/-- Text which neither quotes nor marks anything. -/
def Neutral (text : List Char) : Prop :=
  ∀ c ∈ text, isNeutral c = true

instance (text : List Char) : Decidable (Neutral text) :=
  inferInstanceAs (Decidable (∀ c ∈ text, isNeutral c = true))

theorem isNeutral_or (c : Char) :
    isNeutral c = true ∨ c = '\x27' ∨ c = '\x22' ∨ c = '?' ∨ c = ':' := by
  by_cases neutral : isNeutral c = true
  · exact .inl neutral
  · right
    simpa [isNeutral, isQuote, or_assoc, Decidable.or_iff_not_imp_left] using neutral

theorem isNeutral_of_isDigit {c : Char} (digit : c.isDigit = true) : isNeutral c = true := by
  rcases isNeutral_or c with neutral | rfl | rfl | rfl | rfl
  · exact neutral
  all_goals cases digit

namespace Neutral

variable {text : List Char}

theorem append {first second : List Char} (left : Neutral first) (right : Neutral second) :
    Neutral (first ++ second) :=
  List.forall_mem_append.mpr ⟨left, right⟩

theorem cons {c : Char} (first : isNeutral c = true) (rest : Neutral text) :
    Neutral (c :: text) :=
  List.forall_mem_cons.mpr ⟨first, rest⟩

theorem plain (neutral : Neutral text) : Plain text := by
  intro c among
  have := neutral c among
  rw [isNeutral, Bool.and_eq_true, Bool.and_eq_true, Bool.not_eq_true'] at this
  exact this.1.1

theorem colon_notMem (neutral : Neutral text) : ':' ∉ text :=
  fun among => nomatch neutral ':' among

theorem head_ne_colon {c : Char} (neutral : Neutral (c :: text)) : c ≠ ':' := by
  rintro rfl
  exact neutral.colon_notMem List.mem_cons_self

theorem tail {c : Char} (neutral : Neutral (c :: text)) : Neutral text :=
  fun other later => neutral other (List.mem_cons_of_mem c later)

/-- Neutral text has no unnamed position. -/
theorem hasUnnamed (neutral : Neutral text) (state : Quotation) :
    hasUnnamed state text = false := by
  induction text generalizing state with
  | nil => rfl
  | cons c text inductionHypothesis =>
      have unmarked : (c == '?') = false := by
        rw [beq_eq_false_iff_ne]
        rintro rfl
        exact nomatch neutral '?' List.mem_cons_self
      rw [Quotation.hasUnnamed, unmarked, Bool.and_false, Bool.false_or]
      exact inductionHypothesis neutral.tail _

end Neutral

end NamedSql.Sql.Quotation
