import NamedSql.Proofs.Sql.Pieces
import NamedSql.Proofs.Sql.Spellings

/-!
# How membership clauses are written

A clause is a keyword, and a path in parentheses.  However it is spelled, nothing of it
quotes, and nothing of it marks anything but the colon of its path.  Comparisons are written
the same way, but without a keyword.
-/

namespace NamedSql.Sql

/-! ## Blanks -/

theorem separates_of_isBlank {c : Char} (blank : Text.isBlank c = true) : Separates c := by
  constructor
  · by_contra continues
    exact nomatch blank.symm.trans
      (isBlank_of_continuesName (Bool.not_eq_false _ |>.mp continues))
  · constructor
    · rintro rfl
      cases blank
    · rintro rfl
      cases blank

theorem isNeutral_of_isBlank {c : Char} (blank : Text.isBlank c = true) :
    Quotation.isNeutral c = true := by
  rcases Quotation.isNeutral_or c with neutral | rfl | rfl | rfl | rfl
  · exact neutral
  all_goals cases blank

theorem Blanks.neutral {blanks : List Char} (blank : Blanks blanks) : Quotation.Neutral blanks :=
  fun c among => isNeutral_of_isBlank (blank c among)

/-! ## The parts of a clause -/

/-- Neutral text which begins with a separator. -/
structure Gap (text : List Char) : Prop where
  neutral : Quotation.Neutral text
  separates : ∃ c tail, text = c :: tail ∧ Separates c

/-- A word, in any case. -/
structure Keyword (text : List Char) : Prop where
  nonempty : text ≠ []
  letters : ∀ c ∈ text, c.isAlpha = true

/-- A path with text around it, and in the end a parenthesis. -/
def Parenthesized (path : Path) (text : List Char) : Prop :=
  ∃ opening closing, Gap opening ∧ Gap closing ∧ closing.getLast? = some ')' ∧
    text = opening ++ ':' :: (path.chars ++ closing)

theorem Keyword.neutral {text : List Char} (keyword : Keyword text) : Quotation.Neutral text :=
  fun c among => letters_isAlpha.neutral c (keyword.letters c among)

theorem Gap.append {first second : List Char} (gap : Gap first)
    (neutral : Quotation.Neutral second) : Gap (first ++ second) := by
  obtain ⟨c, tail, rfl, separates⟩ := gap.separates
  constructor
  · exact gap.neutral.append neutral
  · exact ⟨c, tail ++ second, rfl, separates⟩

theorem gap_cons {c : Char} {text : List Char} (separates : Separates c)
    (first : Quotation.isNeutral c = true) (rest : Quotation.Neutral text) : Gap (c :: text) := by
  constructor
  · exact .cons first rest
  · exact ⟨c, text, rfl, separates⟩

/-- Blanks before a gap are part of it. -/
theorem Gap.blanks {blanks text : List Char} (blank : Blanks blanks) (gap : Gap text) :
    Gap (blanks ++ text) := by
  cases blanks with
  | nil => exact gap
  | cons c blanks =>
      obtain ⟨first, others⟩ := List.forall_mem_cons.mp blank
      apply gap_cons (separates_of_isBlank first) (isNeutral_of_isBlank first)
      exact Blanks.neutral others |>.append gap.neutral

theorem gap_open {text : List Char} (rest : Quotation.Neutral text) : Gap ('(' :: text) :=
  gap_cons ⟨rfl, by decide, by decide⟩ rfl rest

theorem gap_close : Gap [')'] :=
  gap_cons ⟨rfl, by decide, by decide⟩ rfl fun _ among => nomatch among

/-- More text before the path is part of what is around it. -/
theorem Parenthesized.prepend {path : Path} {gap text : List Char}
    (parenthesized : Parenthesized path text) (isGap : Gap gap) :
    Parenthesized path (gap ++ text) := by
  obtain ⟨opening, closing, opens, closes, last, rfl⟩ := parenthesized
  exact ⟨gap ++ opening, closing, isGap.append opens.neutral, closes, last,
    (List.append_assoc _ _ _).symm⟩

/-! ## Spellings -/

/-- Words of letters are keywords. -/
theorem Spells.keyword {word text : List Char} (spells : Spells word text)
    (letters : word.all Char.isAlpha = true) (nonempty : word ≠ []) : Keyword text := by
  subst spells
  constructor
  · rintro rfl
    exact nonempty rfl
  · intro c among
    apply isAlpha_of_toLower
    exact List.all_eq_true.mp letters _ (List.mem_map_of_mem among)

theorem Enclosed.parenthesized {path : Path} {blanks text : List Char} (blank : Blanks blanks)
    (enclosed : Enclosed path text) : Parenthesized path (blanks ++ text) := by
  obtain ⟨opening, closing, blankOpening, blankClosing, rfl⟩ := enclosed
  refine ⟨blanks ++ '(' :: opening, closing ++ [')'],
    (gap_open blankOpening.neutral).blanks blank, gap_close.blanks blankClosing, by simp, ?_⟩
  rw [List.append_assoc, List.cons_append]

/-- A clause is a keyword and a path in parentheses; the rest of its lead stands before the
path. -/
theorem Spelled.exists_keyword {negated : Bool} {path : Path} {text : List Char}
    (spelled : Spelled negated path text) :
    ∃ keyword enclosed, Keyword keyword ∧ Parenthesized path enclosed ∧
      text = keyword ++ enclosed := by
  obtain ⟨lead, enclosed, isLead, isEnclosed, rfl⟩ := spelled
  cases isLead with
  | @membership word blanks spells blank =>
      exact ⟨word, blanks ++ enclosed, spells.keyword rfl (List.cons_ne_nil _ _),
        isEnclosed.parenthesized blank, List.append_assoc _ _ _⟩
  | negation isNot following =>
      obtain ⟨word, blanks, spells, blank, separated, rfl⟩ := isNot
      cases following with
      | @membership inner innerBlanks innerSpells innerBlank =>
          have keyword := innerSpells.keyword rfl (List.cons_ne_nil _ _)
          have gap : Gap (blanks ++ inner) := by
            obtain ⟨c, blanks, rfl⟩ := List.exists_cons_of_ne_nil separated
            obtain ⟨first, others⟩ := List.forall_mem_cons.mp blank
            exact gap_cons (separates_of_isBlank first) (isNeutral_of_isBlank first)
              (Blanks.neutral others |>.append keyword.neutral)
          refine ⟨word, blanks ++ inner ++ (innerBlanks ++ enclosed),
            spells.keyword rfl (List.cons_ne_nil _ _),
            (isEnclosed.parenthesized innerBlank).prepend gap, ?_⟩
          simp only [List.append_assoc]

/-! ## Clauses as they are found and written anew -/

namespace InClause

variable {clause : InClause}

/-- A clause as the search finds it. -/
structure Found (clause : InClause) : Prop where
  named : clause.path.IsNamed isLetterInAnyCase
  spelled : ∃ keyword enclosed, Keyword keyword ∧ Parenthesized clause.path enclosed ∧
    clause.written = keyword ++ enclosed

/-- A clause which is found stands in the text as it is spelled. -/
theorem found_of_take? {text rest : List Char} (taken : InClause.take? text = some (clause, rest)) :
    clause.Found ∧ text = clause.written ++ rest := by
  obtain ⟨named, spelled, whole⟩ := take?_eq_some_iff.mp taken
  exact ⟨⟨named, spelled.exists_keyword⟩, whole⟩

/-- A comparison is a path in parentheses. -/
theorem parenthesized_comparison (clause : InClause) :
    Parenthesized clause.path clause.comparison := by
  rw [comparison]
  split
  · exact ⟨['!', '=', 'A', 'L', 'L', '('], [')'],
      gap_cons ⟨rfl, by decide, by decide⟩ rfl (List.all_eq_true.mp rfl), gap_close, rfl, by simp⟩
  · exact ⟨['=', 'A', 'N', 'Y', '('], [')'],
      gap_cons ⟨rfl, by decide, by decide⟩ rfl (List.all_eq_true.mp rfl), gap_close, rfl, by simp⟩

end InClause

end NamedSql.Sql
