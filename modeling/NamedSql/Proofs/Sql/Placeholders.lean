import NamedSql.Proofs.Sql.Boundaries

/-!
# Placeholders of text with its clauses written anew

Both ways of writing a clause enclose the same pieces.  Going through the text from left to
right, its placeholders stay the same up to the first clause which begins within one; from
there on letters of placeholders are missing.
-/

namespace NamedSql.Sql

/-- A gap divides text apart, and is plain. -/
theorem Gap.pieces_append {gap : List Char} (isGap : Gap gap) {state : Quotation}
    {text : List Char} (outside : state.after text = .outside) (rest : List Char) :
    pieces state (text ++ (gap ++ rest)) =
      pieces state text ++ (gap.map .char ++ pieces .outside rest) := by
  rw [← pieces_neutral isGap.neutral rest]
  obtain ⟨c, tail, rfl, separates⟩ := isGap.separates
  rw [List.cons_append, separates.pieces_append, outside]

theorem writtenPieces_chars (text : List Char) : writtenPieces (text.map .char) = text := by
  induction text with
  | nil => rfl
  | cons c text inductionHypothesis =>
      rw [List.map_cons, writtenPieces_cons, inductionHypothesis]
      rfl

/-- What is enclosed is divided on its own, and its placeholders are those of its path. -/
theorem Parenthesized.exists_pieces {path : Path} {text : List Char}
    (named : path.IsNamed isLetterInAnyCase) (parenthesized : Parenthesized path text) :
    ∃ enclosed, writtenPieces enclosed = text ∧
      pathsOf enclosed = pathsOf (pieces .outside (':' :: path.chars)) ∧
      ∀ (state : Quotation) (before after : List Char), state.after before = .outside →
        pieces state (before ++ (text ++ after)) =
          pieces state before ++ (enclosed ++ pieces .outside after) := by
  obtain ⟨opening, closing, opens, closes, _, rfl⟩ := parenthesized
  refine ⟨opening.map .char ++ (pieces .outside (':' :: path.chars) ++ closing.map .char),
    ?_, ?_, ?_⟩
  · rw [writtenPieces_append, writtenPieces_append, writtenPieces_chars, writtenPieces_chars,
      writtenPieces_pieces, List.cons_append]
  · rw [pathsOf_append, pathsOf_append, pathsOf_chars, pathsOf_chars, List.nil_append,
      List.append_nil]
  · intro state before after outside
    have plain : Quotation.Plain (':' :: path.chars) :=
      .cons rfl (named.neutral letters_isLetterInAnyCase).plain
    have closed := closes.pieces_append plain.after after
    have opened := opens.pieces_append outside (':' :: (path.chars ++ (closing ++ after)))
    rw [List.cons_append] at closed
    rw [List.append_assoc, List.cons_append, List.append_assoc, opened, closed]
    simp only [List.append_assoc]

/-! ## Going through the text -/

section Induction

variable (isList : Path → Bool)

/-- No clause among the segments after a text which is written anew begins within a
placeholder. -/
def NoneSplits (state : Quotation) (text : List Char) (segments : List Segment) : Prop :=
  ∀ first clause rest, segments = first ++ .clause clause :: rest →
    state.after (text ++ source first) = .outside → isList clause.path = true →
    ¬SplitsPlaceholder state (text ++ source first) (clause.written ++ source rest)

variable {isList} {state : Quotation} {text : List Char}

theorem noneSplits_nil : NoneSplits isList state text [] := by
  intro first clause rest absent
  simp at absent

theorem noneSplits_char {c : Char} {rest : List Segment} :
    NoneSplits isList state text (.char c :: rest) ↔
      NoneSplits isList state (text ++ [c]) rest := by
  constructor
  · intro none first clause later same
    have := none (.char c :: first) clause later (congrArg _ same)
    rwa [source_cons, Segment.chars, ← List.append_assoc] at this
  · intro none first clause later same
    cases first with
    | nil => cases same
    | cons segment first =>
        cases same
        have := none first clause later rfl
        rwa [List.append_assoc] at this

theorem noneSplits_clause {clause : InClause} {rest : List Segment} :
    NoneSplits isList state text (.clause clause :: rest) ↔
      (state.after text = .outside → isList clause.path = true →
        ¬SplitsPlaceholder state text (clause.written ++ source rest)) ∧
      NoneSplits isList state (text ++ clause.written) rest := by
  constructor
  · intro none
    constructor
    · have := none [] clause rest rfl
      rwa [source, List.flatMap_nil, List.append_nil] at this
    · intro first other later same
      have := none (.clause clause :: first) other later (congrArg _ same)
      rwa [source_cons, Segment.chars, ← List.append_assoc] at this
  · rintro ⟨here, none⟩ first other later same
    cases first with
    | nil =>
        cases same
        rwa [source, List.flatMap_nil, List.append_nil]
    | cons segment first =>
        cases same
        have := none first other later rfl
        rwa [List.append_assoc] at this

/-- Where text is divided apart, its beginning does not matter. -/
theorem noneSplits_restart {finished : List Piece} {segments : List Segment}
    (outside : state.after text = .outside) (written : writtenPieces finished = text)
    (divided : ∀ rest, pieces state (text ++ rest) = finished ++ pieces .outside rest) :
    NoneSplits isList state text segments ↔ NoneSplits isList .outside [] segments := by
  have goesOn : ∀ more, state.after (text ++ more) = Quotation.outside.after more := by
    intro more
    rw [Quotation.after_append, outside]
  have splits : ∀ before after, SplitsPlaceholder state (text ++ before) after ↔
      SplitsPlaceholder .outside before after :=
    fun before after => splitsPlaceholder_append (divided (before ++ after)) written
  constructor
  · intro none first clause rest same isOutside listed
    rw [← splits]
    exact none first clause rest same ((goesOn _).trans isOutside) listed
  · intro none first clause rest same isOutside listed
    rw [splits]
    exact none first clause rest same ((goesOn _).symm.trans isOutside) listed

/-- Writing one clause anew keeps the placeholders of the text up to its end, unless the clause
begins within a placeholder: then letters of placeholders are missing. -/
theorem InClause.Found.pieces_comparison {clause : InClause} (found : clause.Found)
    (outside : state.after text = .outside)
    (ends : ∀ c ∈ text.getLast?, continuesName Char.isAlpha c = false) :
    ∃ finished changed, writtenPieces finished = text ++ clause.written ∧
      (∀ rest, pieces state (text ++ clause.written ++ rest) =
        finished ++ pieces .outside rest) ∧
      (∀ rest, pieces state (text ++ clause.comparison ++ rest) =
        changed ++ pieces .outside rest) ∧
      ((∀ rest, ¬SplitsPlaceholder state text (clause.written ++ rest)) ∧
          pathsOf changed = pathsOf finished ∧
          (∃ enclosed, finished = pieces state text ++ enclosed ∧
            pathsOf enclosed = pathsOf (pieces .outside (':' :: clause.path.chars))) ∨
        (∀ rest, SplitsPlaceholder state text (clause.written ++ rest)) ∧
          extent changed < extent finished) := by
  obtain ⟨keyword, enclosed, isKeyword, parenthesized, written⟩ := found.spelled
  obtain ⟨kept, keptWritten, keptPaths, keptDivided⟩ := parenthesized.exists_pieces found.named
  obtain ⟨other, _, otherPaths, otherDivided⟩ :=
    clause.parenthesized_comparison.exists_pieces found.named
  have keywordOutside : state.after (text ++ keyword) = .outside := by
    rw [Quotation.after_append, outside]
    exact isKeyword.neutral.plain.after
  have samePaths : pathsOf other = pathsOf kept := otherPaths.trans keptPaths.symm
  have sourceDivided : ∀ rest, pieces state (text ++ clause.written ++ rest) =
      pieces state (text ++ keyword) ++ kept ++ pieces .outside rest := by
    intro rest
    rw [written, ← List.append_assoc, List.append_assoc, keptDivided _ _ _ keywordOutside,
      List.append_assoc]
  refine ⟨pieces state (text ++ keyword) ++ kept, pieces state text ++ other, ?_, sourceDivided,
    ?_, ?_⟩
  · rw [writtenPieces_append, writtenPieces_pieces, keptWritten, written, List.append_assoc]
  · intro rest
    rw [List.append_assoc, otherDivided _ _ _ outside, List.append_assoc]
  · rcases pieces_keyword isKeyword outside ends with plain | ⟨⟨earlier, path, cut, begins⟩, longer⟩
    · left
      constructor
      · intro rest
        have divided : pieces state (text ++ (clause.written ++ rest)) =
            pieces state text ++ (keyword.map .char ++ (kept ++ pieces .outside rest)) := by
          rw [← List.append_assoc, sourceDivided, plain, List.append_assoc, List.append_assoc]
        exact not_splitsPlaceholder divided (writtenPieces_pieces state text)
      · constructor
        · rw [plain, pathsOf_append, pathsOf_append, pathsOf_append, pathsOf_chars, samePaths,
            List.append_nil]
        · refine ⟨keyword.map .char ++ kept, by rw [plain, List.append_assoc], ?_⟩
          rw [pathsOf_append, pathsOf_chars, List.nil_append, keptPaths]
    · right
      constructor
      · intro rest
        apply splitsPlaceholder_of_cut isKeyword.nonempty cut begins
        rw [← List.append_assoc, sourceDivided, List.append_assoc]
      · have same : extent other = extent kept := by rw [extent, extent, samePaths]
        rw [extent_append, extent_append]
        omega

variable (isList) {segments : List Segment} {before : Option Char}

/-- A name does not end where a clause can begin. -/
theorem ends_of_begins (last : ∀ c ∈ text.getLast?, c ∈ before)
    (begins : before.any Text.isWord = false) :
    ∀ c ∈ text.getLast?, continuesName Char.isAlpha c = false := by
  intro c isLast
  by_contra continues
  have isWord := isWord_of_continuesName (Bool.not_eq_false _ |>.mp continues)
  rw [Option.mem_def.mp (last c isLast), Option.any_some, isWord] at begins
  cases begins

theorem InClause.Found.last {clause : InClause} (found : clause.Found) (text : List Char) :
    ∀ c ∈ (text ++ clause.written).getLast?, c ∈ some ')' := by
  obtain ⟨keyword, enclosed, _, ⟨opening, closing, _, _, last, rfl⟩, written⟩ := found.spelled
  intro c isLast
  have closes : ')' ∈ (text ++ clause.written).getLast? := by
    rw [written]
    exact mem_getLast?_append text (mem_getLast?_append keyword (mem_getLast?_append opening
      (mem_getLast?_append [':'] (mem_getLast?_append clause.path.chars last))))
  rw [Option.mem_def.mp closes] at isLast
  exact isLast

/-- Writing clauses anew keeps the placeholders of a text exactly if none of the clauses begins
within a placeholder.  In no case are there more letters in placeholders than before. -/
theorem Segmented.paths_writeSegments (segmented : Segmented before segments)
    (proper : state.Proper) (last : ∀ c ∈ text.getLast?, c ∈ before) :
    extent (pieces state (text ++ writeSegments isList (state.after text) segments)) ≤
        extent (pieces state (text ++ source segments)) ∧
      (pathsOf (pieces state (text ++ writeSegments isList (state.after text) segments)) =
          pathsOf (pieces state (text ++ source segments)) ↔
        NoneSplits isList state text segments) := by
  induction segmented generalizing state text with
  | nil => exact ⟨Nat.le_refl _, iff_of_true rfl noneSplits_nil⟩
  | @char before c rest _ inductionHypothesis =>
      have isLast : ∀ other ∈ (text ++ [c]).getLast?, other ∈ some c := by simp
      have next := inductionHypothesis proper isLast
      rw [Quotation.after_append] at next
      rw [noneSplits_char]
      simpa [writeSegments, Segment.chars] using next
  | @clause before clause rest found begins _ inductionHypothesis =>
      rw [writeSegments, source_cons, Segment.chars, noneSplits_clause, ← List.append_assoc,
        ← List.append_assoc]
      by_cases anew : state.after text = .outside ∧ isList clause.path = true
      · obtain ⟨outside, listed⟩ := anew
        obtain ⟨finished, changed, written, divided, changedDivided, compared⟩ :=
          found.pieces_comparison outside (ends_of_begins last begins)
        have restart : NoneSplits isList state (text ++ clause.written) rest ↔
            NoneSplits isList .outside [] rest := by
          apply noneSplits_restart _ written divided
          rw [Quotation.after_append, outside]
          exact found.plain.after
        have noLast : ∀ c ∈ ([] : List Char).getLast?, c ∈ some ')' := by
          rintro _ ⟨⟩
        obtain ⟨fewer, same⟩ := inductionHypothesis Quotation.proper_outside noLast
        rw [Quotation.after_nil, List.nil_append, List.nil_append] at fewer same
        rw [if_pos ⟨outside, listed⟩, outside, divided, changedDivided, restart, extent_append,
          extent_append, pathsOf_append, pathsOf_append]
        rcases compared with ⟨unsplit, samePaths, _⟩ | ⟨split, longer⟩
        · have sameExtent : extent changed = extent finished := by
            rw [extent, extent, samePaths]
          constructor
          · omega
          · rw [samePaths, List.append_cancel_left_eq, same]
            exact (and_iff_right fun _ _ => unsplit _).symm
        · constructor
          · omega
          · apply iff_of_false
            · intro equal
              have lengths := congrArg (fun paths => (paths.flatMap Path.chars).length) equal
              rw [← pathsOf_append, ← pathsOf_append] at lengths
              have total : extent _ = extent _ := lengths
              rw [extent_append, extent_append] at total
              omega
            · intro none
              exact none.1 rfl listed (split (source rest))
      · have next := inductionHypothesis proper (found.last text)
        rw [Quotation.after_append, found.plain.after_eq (proper.after text)] at next
        rw [if_neg anew]
        rw [and_iff_right fun outside listed => absurd ⟨outside, listed⟩ anew]
        exact next

end Induction

/-! ## Clauses of a text -/

variable {isList : Path → Bool} {sql before after : List Char} {clause : InClause}

/-- The clause stands in the text, outside quotations, between the texts before and after it,
and is written anew. -/
structure Rewritten (isList : Path → Bool) (sql before : List Char) (clause : InClause)
    (after : List Char) : Prop where
  found : ∃ first rest, segments none sql = first ++ .clause clause :: rest ∧
    source first = before ∧ source rest = after
  outside : Quotation.outside.after before = .outside
  listed : isList clause.path = true

/-- Writing clauses anew keeps the placeholders of a text exactly if none of the clauses begins
within a placeholder. -/
theorem placeholders_replaceClauses (isList : Path → Bool) (sql : List Char) :
    placeholders (tokenize (replaceClauses isList sql)) = placeholders (tokenize sql) ↔
      ∀ before clause after, Rewritten isList sql before clause after →
        ¬SplitsPlaceholder .outside before (clause.written ++ after) := by
  have noLast : ∀ c ∈ ([] : List Char).getLast?, c ∈ (none : Option Char) := fun _ absent => absent
  have whole := ((segmented_segments none sql).paths_writeSegments isList
    Quotation.proper_outside noLast).2
  rw [Quotation.after_nil, List.nil_append, List.nil_append, source_segments] at whole
  rw [tokenize, tokenize, placeholders_ofPieces, placeholders_ofPieces, replaceClauses, whole]
  constructor
  · rintro none before clause after ⟨⟨first, rest, same, rfl, rfl⟩, outside, listed⟩
    exact none first clause rest same outside listed
  · intro none first clause rest same outside listed
    exact none _ clause _ ⟨⟨first, rest, same, rfl, rfl⟩, outside, listed⟩

/-- A clause among segments is spelled as one, and no name ends before it. -/
theorem Segmented.found_of_append {before : Option Char} {first rest : List Segment}
    (segmented : Segmented before (first ++ .clause clause :: rest)) {text : List Char}
    (last : ∀ c ∈ text.getLast?, c ∈ before) :
    clause.Found ∧
      ∀ c ∈ (text ++ source first).getLast?, continuesName Char.isAlpha c = false := by
  induction first generalizing before text with
  | nil =>
      cases segmented with
      | clause found begins _ =>
          rw [source, List.flatMap_nil, List.append_nil]
          exact ⟨found, ends_of_begins last begins⟩
  | cons segment first inductionHypothesis =>
      rw [source_cons, ← List.append_assoc]
      cases segmented with
      | char following => exact inductionHypothesis following (by simp [Segment.chars])
      | clause found _ following => exact inductionHypothesis following (found.last text)

/-! ## Paths of clauses -/

/-- Only two letters of clauses are not ASCII. -/
theorem isLetterInAnyCase_ascii {c : Char} (ascii : c.toNat < 128) :
    isLetterInAnyCase c = c.isAlpha :=
  forall_ascii (P := fun c => isLetterInAnyCase c = c.isAlpha) (by decide +kernel) ascii

theorem IsName.ascii {name : List Char} (isName : IsName isLetterInAnyCase name)
    (ascii : ∀ c ∈ name, c.toNat < 128) : IsName Char.isAlpha name := by
  constructor
  · obtain ⟨c, first, starts⟩ := isName.starts
    rw [startsName, isLetterInAnyCase_ascii (ascii c (List.mem_of_head? first))] at starts
    exact ⟨c, first, starts⟩
  · intro c among
    have continues := isName.continues c among
    rwa [continuesName, isLetterInAnyCase_ascii (ascii c among)] at continues

/-- The path of a clause is a placeholder exactly if it is written in ASCII. -/
theorem Path.IsNamed.pathsOf_eq_iff {path : Path} (named : path.IsNamed isLetterInAnyCase) :
    pathsOf (pieces .outside (':' :: path.chars)) = [path] ↔ ∀ c ∈ path.chars, c.toNat < 128 := by
  constructor
  · intro whole c among
    have isPath : path ∈ pathsOf (pieces .outside (':' :: path.chars)) := by
      rw [whole]
      exact List.mem_singleton_self path
    have namedInAscii := (divides_pieces _ _).isNamed_of_mem path isPath
    rcases namedInAscii.continuesName_or_dot among with continues | rfl
    · exact lt_of_continuesName continues
    · decide
  · intro ascii
    have namedInAscii : path.IsNamed Char.isAlpha := by
      rcases path with ⟨name, property⟩
      constructor
      · apply named.name.ascii
        exact fun c among => ascii c (List.mem_append_left _ among)
      · rintro property rfl
        apply (named.property property rfl).ascii
        exact fun c among => ascii c (List.mem_append_right _ (List.mem_cons_of_mem _ among))
    have taken := pieces_path namedInAscii (Path.ends_nil path)
    rw [List.append_nil, pieces_nil] at taken
    rw [taken]
    rfl

/-- A clause which does not begin within a placeholder encloses pieces of its own.  Their one
placeholder is the path of the clause exactly if that is written in ASCII. -/
theorem Rewritten.encloses (rewritten : Rewritten isList sql before clause after)
    (unsplit : ¬SplitsPlaceholder .outside before (clause.written ++ after)) :
    ∃ earlier enclosed later, pieces .outside sql = earlier ++ (enclosed ++ later) ∧
      writtenPieces earlier = before ∧ writtenPieces enclosed = clause.written ∧
      (pathsOf enclosed = [clause.path] ↔ ∀ c ∈ clause.path.chars, c.toNat < 128) := by
  obtain ⟨first, rest, same, rfl, rfl⟩ := rewritten.found
  have noLast : ∀ c ∈ ([] : List Char).getLast?, c ∈ (none : Option Char) := fun _ absent => absent
  have segmented := segmented_segments none sql
  rw [same] at segmented
  obtain ⟨found, ends⟩ := segmented.found_of_append noLast
  rw [List.nil_append] at ends
  have whole : sql = source first ++ (clause.written ++ source rest) := by
    rw [← source_segments none sql, same, source_append, source_cons]
    rfl
  obtain ⟨finished, _, written, divided, _, compared⟩ :=
    found.pieces_comparison rewritten.outside ends
  rcases compared with ⟨_, _, enclosed, rfl, paths⟩ | ⟨split, _⟩
  · refine ⟨pieces .outside (source first), enclosed, pieces .outside (source rest), ?_, ?_, ?_, ?_⟩
    · rw [whole, ← List.append_assoc, divided, List.append_assoc]
    · exact writtenPieces_pieces _ _
    · rw [writtenPieces_append, writtenPieces_pieces] at written
      exact List.append_cancel_left written
    · rw [paths]
      exact found.named.pathsOf_eq_iff
  · exact absurd (split (source rest)) unsplit

end NamedSql.Sql
