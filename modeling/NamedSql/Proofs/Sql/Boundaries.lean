import NamedSql.Proofs.Sql.Rewriting

/-!
# Clauses which begin within placeholders

A clause is searched for wherever a word can begin, also right after the colon of a
placeholder or after the dot of its property.  Writing such a clause anew takes its keyword
away from the placeholder; writing any other clause anew keeps every placeholder.
-/

namespace NamedSql.Sql

/-- A placeholder of the text begins before the place where the text is divided, and goes on
after it. -/
def SplitsPlaceholder (state : Quotation) (before after : List Char) : Prop :=
  ∃ earlier path later, pieces state (before ++ after) = earlier ++ .placeholder path :: later ∧
    (writtenPieces earlier).length < before.length ∧
    before.length < (writtenPieces earlier).length + (':' :: path.chars).length

/-- The letters of all paths of placeholders, counted. -/
def extent (pieces : List Piece) : Nat :=
  ((pathsOf pieces).flatMap Path.chars).length

@[simp]
theorem extent_append (first second : List Piece) :
    extent (first ++ second) = extent first + extent second := by
  rw [extent, pathsOf_append, List.flatMap_append, List.length_append]
  rfl

section Splitting

variable {state : Quotation} {before after : List Char}

/-- Where pieces are divided, no placeholder is. -/
theorem not_splitsPlaceholder {first second : List Piece}
    (divided : pieces state (before ++ after) = first ++ second)
    (written : writtenPieces first = before) : ¬SplitsPlaceholder state before after := by
  rintro ⟨earlier, path, later, found, begins, goesOn⟩
  rw [divided] at found
  rcases List.append_eq_append_iff.mp found with ⟨between, rfl, _⟩ | ⟨between, rfl, same⟩
  · rw [← written, writtenPieces_append, List.length_append] at begins
    omega
  · cases between with
    | nil =>
        rw [← written, List.append_nil] at begins
        omega
    | cons piece between =>
        cases same
        rw [← written, writtenPieces_append, List.length_append, writtenPieces_cons,
          List.length_append, Piece.chars] at goesOn
        omega

/-- A placeholder which begins in the text before and ends with a word after it is split. -/
theorem splitsPlaceholder_of_cut {word : List Char} {earlier later : List Piece} {path : Path}
    (nonempty : word ≠ []) (cut : pieces state (before ++ word) = earlier ++ [.placeholder path])
    (begins : (writtenPieces earlier).length < before.length)
    (divided : pieces state (before ++ after) = pieces state (before ++ word) ++ later) :
    SplitsPlaceholder state before after := by
  have whole : before.length + word.length =
      (writtenPieces earlier).length + (':' :: path.chars).length := by
    rw [← List.length_append, ← writtenPieces_pieces state (before ++ word), cut,
      writtenPieces_append, List.length_append, writtenPieces_cons, writtenPieces_nil,
      List.append_nil, Piece.chars]
  have goesOn := List.length_pos_iff.mpr nonempty
  refine ⟨earlier, path, later, ?_, begins, by omega⟩
  rw [divided, cut, List.append_assoc, List.singleton_append]

/-- Pieces which are finished before do not matter. -/
theorem splitsPlaceholder_append {base : List Char} {finished : List Piece} {next : Quotation}
    (divided : pieces state (base ++ (before ++ after)) = finished ++ pieces next (before ++ after))
    (written : writtenPieces finished = base) :
    SplitsPlaceholder state (base ++ before) after ↔ SplitsPlaceholder next before after := by
  constructor
  · rintro ⟨earlier, path, later, found, begins, goesOn⟩
    rw [List.append_assoc, divided] at found
    rw [List.length_append] at begins goesOn
    rcases List.append_eq_append_iff.mp found with ⟨between, rfl, same⟩ | ⟨between, rfl, same⟩
    · refine ⟨between, path, later, same, ?_, ?_⟩
      · rw [writtenPieces_append, List.length_append, written] at begins
        omega
      · rw [writtenPieces_append, List.length_append, written] at goesOn
        omega
    · cases between with
      | nil =>
          rw [List.append_nil] at written
          refine ⟨[], path, later, same.symm, ?_, ?_⟩
          · rw [written] at begins
            simpa using begins
          · rw [written] at goesOn
            simpa using goesOn
      | cons piece between =>
          cases same
          rw [← written, writtenPieces_append, List.length_append, writtenPieces_cons,
            List.length_append, Piece.chars] at goesOn
          omega
  · rintro ⟨earlier, path, later, found, begins, goesOn⟩
    refine ⟨finished ++ earlier, path, later, ?_, ?_, ?_⟩
    · rw [List.append_assoc, divided, found, List.append_assoc]
    · rw [writtenPieces_append, List.length_append, List.length_append, written]
      omega
    · rw [writtenPieces_append, List.length_append, List.length_append, written]
      omega

end Splitting

/-! ## Keywords after text -/

theorem Keyword.isName {keyword : List Char} (isKeyword : Keyword keyword) :
    IsName Char.isAlpha keyword := by
  constructor
  · cases keyword with
    | nil => exact absurd rfl isKeyword.nonempty
    | cons c rest =>
        have letter := isKeyword.letters c List.mem_cons_self
        exact ⟨c, rfl, by rw [startsName, letter, Bool.true_or]⟩
  · intro c among
    rw [continuesName, isKeyword.letters c among, Bool.true_or, Bool.true_or]

/-- A name ends before a dot with nothing after it. -/
theorem Path.ends_dot (path : Path) : path.Ends Char.isAlpha ['.'] := by
  constructor
  · rintro _ ⟨⟩
    rfl
  · rintro - _ ⟨⟩ c first
    cases first

/-- A keyword completes a placeholder whose colon has been written. -/
theorem pieces_colon_keyword {keyword : List Char} (isKeyword : Keyword keyword) :
    pieces .outside (':' :: keyword) = [.placeholder ⟨String.ofList keyword, none⟩] := by
  have named : Path.IsNamed Char.isAlpha ⟨String.ofList keyword, none⟩ := by
    constructor
    · rw [String.toList_ofList]
      exact isKeyword.isName
    · intro property absent
      cases absent
  have completed := pieces_path named (Path.ends_nil _)
  rwa [Path.chars_name, String.toList_ofList, List.append_nil, pieces_nil] at completed

/-- A keyword completes a placeholder whose property has been begun. -/
theorem pieces_name_keyword {name : String} {keyword : List Char}
    (isName : IsName Char.isAlpha name.toList) (isKeyword : Keyword keyword) :
    pieces .outside (':' :: name.toList ++ ['.'] ++ keyword) =
      [.placeholder ⟨name, some (String.ofList keyword)⟩] := by
  have named : Path.IsNamed Char.isAlpha ⟨name, some (String.ofList keyword)⟩ := by
    constructor
    · exact isName
    · rintro _ ⟨⟩
      rw [String.toList_ofList]
      exact isKeyword.isName
  have completed := pieces_path named (Path.ends_nil _)
  rw [Path.chars_property, List.append_nil, pieces_nil, String.toList_ofList] at completed
  rwa [List.cons_append, List.cons_append, List.append_assoc, List.singleton_append]

/-- Without a keyword after it, a property which has been begun is none. -/
theorem pieces_name_dot {name : String} (isName : IsName Char.isAlpha name.toList) :
    pieces .outside (':' :: name.toList ++ ['.']) = [.placeholder ⟨name, none⟩, .char '.'] := by
  have named : Path.IsNamed Char.isAlpha ⟨name, none⟩ := by
    constructor
    · exact isName
    · intro property absent
      cases absent
  have shorter := pieces_path named (Path.ends_dot _)
  have dot : pieces .outside (['.'] ++ []) = [.char '.'] ++ pieces .outside [] :=
    pieces_neutral (List.all_eq_true.mp rfl) []
  rw [List.append_nil, pieces_nil] at dot
  rwa [Path.chars_name, dot] at shorter

/-- A keyword after what has been begun of a placeholder completes it.  Without the keyword,
the placeholder is lost or shorter. -/
theorem Begun.keyword {begun keyword : List Char} (isBegun : Begun begun)
    (isKeyword : Keyword keyword) :
    begun = [] ∨ ∃ path, pieces .outside (begun ++ keyword) = [.placeholder path] ∧
      0 < begun.length ∧
      extent (pieces .outside begun) < extent (pieces .outside (begun ++ keyword)) := by
  have longer : 0 < keyword.length := List.length_pos_iff.mpr isKeyword.nonempty
  cases isBegun with
  | nothing => exact .inl rfl
  | colon =>
      right
      have colon : pieces .outside [':'] = [.char ':'] := by
        rw [pieces_colon _ rfl, pieces_nil]
        intro tail cast
        cases cast
      rw [List.singleton_append, pieces_colon_keyword isKeyword, colon]
      refine ⟨_, rfl, Nat.one_pos, ?_⟩
      simpa [extent, Path.chars] using longer
  | name name isName =>
      right
      rw [pieces_name_keyword isName isKeyword, pieces_name_dot isName]
      refine ⟨_, rfl, Nat.succ_pos _, ?_⟩
      simp [extent, Path.chars]

/-- A keyword after text is plain, or it completes a placeholder which the text has begun. -/
theorem pieces_keyword {state : Quotation} {text keyword : List Char} (isKeyword : Keyword keyword)
    (outside : state.after text = .outside)
    (ends : ∀ c ∈ text.getLast?, continuesName Char.isAlpha c = false) :
    pieces state (text ++ keyword) = pieces state text ++ keyword.map .char ∨
      (∃ earlier path, pieces state (text ++ keyword) = earlier ++ [.placeholder path] ∧
        (writtenPieces earlier).length < text.length) ∧
      extent (pieces state text) < extent (pieces state (text ++ keyword)) := by
  obtain ⟨finished, begun, isBegun, rfl, _, divided⟩ := exists_begun state text ends
  have alone := divided []
  have followed := divided keyword
  rw [List.append_nil, List.append_nil, outside] at alone
  rw [outside] at followed
  rw [alone, followed]
  rcases isBegun.keyword isKeyword with rfl | ⟨path, completed, begins, longer⟩
  · left
    have plain := pieces_neutral isKeyword.neutral []
    rw [List.append_nil, pieces_nil, List.append_nil] at plain
    rw [pieces_nil, List.append_nil, List.nil_append, plain]
  · right
    constructor
    · refine ⟨finished, path, by rw [completed], ?_⟩
      rw [List.length_append]
      omega
    · rw [extent_append, extent_append]
      omega

end NamedSql.Sql
