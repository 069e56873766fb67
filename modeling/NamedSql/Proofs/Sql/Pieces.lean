import NamedSql.Proofs.Sql.Paths
import NamedSql.Proofs.Sql.Quotations
import NamedSql.Sql.Token

/-!
# Dividing SQL text into pieces

The pieces of a text make it up.  A text can be divided apart where a character separates
placeholders; elsewhere a placeholder may go on, which has only been begun by a colon or by
a name and a dot.
-/

namespace NamedSql.Sql

/-- A piece as it is written. -/
def Piece.chars : Piece → List Char
  | .char c => [c]
  | .placeholder path => ':' :: path.chars

/-- Pieces as they are written. -/
def writtenPieces (pieces : List Piece) : List Char :=
  pieces.flatMap Piece.chars

/-- The path of a placeholder. -/
def Piece.path? : Piece → Option Path
  | .char _ => none
  | .placeholder path => some path

/-- The paths of the placeholders among pieces. -/
def pathsOf (pieces : List Piece) : List Path :=
  pieces.filterMap Piece.path?

@[simp]
theorem writtenPieces_nil : writtenPieces [] = [] :=
  rfl

@[simp]
theorem writtenPieces_cons (piece : Piece) (rest : List Piece) :
    writtenPieces (piece :: rest) = piece.chars ++ writtenPieces rest :=
  rfl

@[simp]
theorem writtenPieces_append (first second : List Piece) :
    writtenPieces (first ++ second) = writtenPieces first ++ writtenPieces second :=
  List.flatMap_append

@[simp]
theorem pathsOf_nil : pathsOf [] = [] :=
  rfl

@[simp]
theorem pathsOf_char_cons (c : Char) (rest : List Piece) :
    pathsOf (.char c :: rest) = pathsOf rest :=
  rfl

@[simp]
theorem pathsOf_placeholder_cons (path : Path) (rest : List Piece) :
    pathsOf (.placeholder path :: rest) = path :: pathsOf rest :=
  rfl

@[simp]
theorem pathsOf_append (first second : List Piece) :
    pathsOf (first ++ second) = pathsOf first ++ pathsOf second :=
  List.filterMap_append

@[simp]
theorem pathsOf_chars (text : List Char) : pathsOf (text.map Piece.char) = [] := by
  induction text with
  | nil => rfl
  | cons c text inductionHypothesis => exact inductionHypothesis

theorem Token.ofPieces_cons (piece : Piece) (rest : List Piece) :
    ofPieces (piece :: rest) = cons piece (ofPieces rest) :=
  rfl

/-- Tokens are divided at a placeholder. -/
theorem Token.ofPieces_append (first second : List Piece) (path : Path) :
    ofPieces (first ++ .placeholder path :: second) =
      ofPieces first ++ .placeholder path :: ofPieces second := by
  induction first with
  | nil => rfl
  | cons piece first inductionHypothesis =>
      rw [List.cons_append, ofPieces_cons, ofPieces_cons, inductionHypothesis]
      cases piece with
      | placeholder path => rfl
      | char c =>
          cases ofPieces first with
          | nil => rfl
          | cons token tokens => cases token <;> rfl

/-- Joining plain text does not matter to placeholders. -/
theorem placeholders_ofPieces (pieces : List Piece) :
    placeholders (Token.ofPieces pieces) = pathsOf pieces := by
  induction pieces with
  | nil => rfl
  | cons piece rest inductionHypothesis =>
      rw [Token.ofPieces_cons]
      cases piece with
      | placeholder path =>
          rw [pathsOf_placeholder_cons, ← inductionHypothesis]
          rfl
      | char c =>
          rw [pathsOf_char_cons, ← inductionHypothesis]
          cases Token.ofPieces rest with
          | nil => rfl
          | cons token tokens => cases token <;> rfl

/-! ## Taking one piece -/

section Equations

variable {rest following : List Char} {path : Path}

@[simp]
theorem pieces_nil (state : Quotation) : pieces state [] = [] := by
  rw [pieces]

theorem pieces_cast (rest : List Char) :
    pieces .outside (':' :: ':' :: rest) =
      .char ':' :: .char ':' :: pieces .outside rest := by
  rw [pieces]

/-- A placeholder is taken as a whole. -/
theorem pieces_placeholder (taken : Path.take? Char.isAlpha rest = some (path, following)) :
    pieces .outside (':' :: rest) = .placeholder path :: pieces .outside following := by
  have noCast : ∀ tail, rest = ':' :: tail → False := by
    rintro tail rfl
    have absent : Path.take? Char.isAlpha (':' :: tail) = none :=
      Path.take?_eq_none_iff.mpr (by rintro _ ⟨⟩; rfl)
    exact nomatch absent.symm.trans taken
  rw [pieces.eq_3 rest noCast]
  split
  · next same =>
    cases taken.symm.trans same
    rfl
  · next absent => exact nomatch absent.symm.trans taken

/-- A path which does not go on with the text is a placeholder. -/
theorem pieces_path (named : path.IsNamed Char.isAlpha) (ends : path.Ends Char.isAlpha rest) :
    pieces .outside (':' :: (path.chars ++ rest)) = .placeholder path :: pieces .outside rest :=
  pieces_placeholder ((Path.take?_eq_some_iff letters_isAlpha).mpr ⟨named, ends, rfl⟩)

/-- A colon without a path after it is plain text. -/
theorem pieces_colon (noCast : ∀ tail, rest = ':' :: tail → False)
    (absent : Path.take? Char.isAlpha rest = none) :
    pieces .outside (':' :: rest) = .char ':' :: pieces .outside rest := by
  rw [pieces.eq_3 rest noCast]
  split
  · next taken =>
    rw [absent] at taken
    cases taken
  · rfl

theorem pieces_char {state : Quotation} {c : Char} (plain : state = .outside → c = ':' → False)
    (rest : List Char) :
    pieces state (c :: rest) = .char c :: pieces (state.step c) rest := by
  rw [pieces.eq_4 state c rest (fun _ isOutside isColon _ => plain isOutside isColon) plain]

end Equations

/-- A way to divide text into pieces: a placeholder has a name, stands outside quotations and
does not go on with the text. -/
inductive Divides : Quotation → List Char → List Piece → Prop where
  | nil (state : Quotation) : Divides state [] []
  | char {state : Quotation} {c : Char} {text : List Char} {pieces : List Piece}
      (rest : Divides (state.step c) text pieces) :
      Divides state (c :: text) (.char c :: pieces)
  | placeholder {path : Path} {text : List Char} {pieces : List Piece}
      (named : path.IsNamed Char.isAlpha) (ends : path.Ends Char.isAlpha text)
      (rest : Divides .outside text pieces) :
      Divides .outside (':' :: (path.chars ++ text)) (.placeholder path :: pieces)

theorem divides_pieces (state : Quotation) (text : List Char) :
    Divides state text (pieces state text) := by
  fun_induction pieces state text with
  | case1 state => exact .nil state
  | case2 rest inductionHypothesis => exact .char (.char inductionHypothesis)
  | case3 rest _ path following taken _ inductionHypothesis =>
      obtain ⟨named, ends, rfl⟩ := (Path.take?_eq_some_iff letters_isAlpha).mp taken
      exact .placeholder named ends inductionHypothesis
  | case4 rest _ _ inductionHypothesis => exact .char inductionHypothesis
  | case5 state c rest _ _ inductionHypothesis => exact .char inductionHypothesis

/-- Pieces make up the text which they divide. -/
theorem Divides.written {state : Quotation} {text : List Char} {pieces : List Piece}
    (divides : Divides state text pieces) : writtenPieces pieces = text := by
  induction divides with
  | nil => rfl
  | char _ inductionHypothesis =>
      rw [writtenPieces_cons, inductionHypothesis]
      rfl
  | placeholder _ _ _ inductionHypothesis =>
      rw [writtenPieces_cons, inductionHypothesis]
      rfl

@[simp]
theorem writtenPieces_pieces (state : Quotation) (text : List Char) :
    writtenPieces (pieces state text) = text :=
  (divides_pieces state text).written

/-- Placeholders are named in ASCII. -/
theorem Divides.isNamed_of_mem {state : Quotation} {text : List Char} {pieces : List Piece}
    (divides : Divides state text pieces) :
    ∀ path ∈ pathsOf pieces, path.IsNamed Char.isAlpha := by
  induction divides with
  | nil => exact fun _ absent => nomatch absent
  | char _ inductionHypothesis => exact inductionHypothesis
  | placeholder named _ _ inductionHypothesis =>
      intro path among
      rcases List.mem_cons.mp among with rfl | later
      · exact named
      · exact inductionHypothesis path later

/-- The placeholders of SQL text are named in ASCII. -/
theorem isNamed_of_mem_tokenize {text : List Char} :
    ∀ path ∈ placeholders (tokenize text), path.IsNamed Char.isAlpha := by
  rw [tokenize, placeholders_ofPieces]
  exact (divides_pieces .outside text).isNamed_of_mem

/-! ## Dividing text apart -/

/-- A character which neither goes on with a placeholder or a cast nor begins one. -/
def Separates (c : Char) : Prop :=
  continuesName Char.isAlpha c = false ∧ c ≠ '.' ∧ c ≠ ':'

theorem Separates.ends {c : Char} (separates : Separates c) (path : Path) (rest : List Char) :
    path.Ends Char.isAlpha (c :: rest) := by
  constructor
  · rintro _ ⟨⟩
    exact separates.1
  · rintro - _ ⟨⟩
    exact absurd rfl separates.2.1

theorem Separates.startsNone {c : Char} (separates : Separates c) :
    startsName Char.isAlpha c = false := by
  by_contra starts
  exact nomatch (continuesName_of_startsName (Bool.not_eq_false _ |>.mp starts)).symm.trans
    separates.1

/-- A separator does not matter to paths read before it. -/
theorem Separates.take?_append {c : Char} (separates : Separates c) {text following : List Char}
    {path : Path} (taken : Path.take? Char.isAlpha text = some (path, following))
    (rest : List Char) :
    Path.take? Char.isAlpha (text ++ c :: rest) = some (path, following ++ c :: rest) := by
  apply Path.take?_append letters_isAlpha taken
  obtain ⟨_, ends, _⟩ := (Path.take?_eq_some_iff letters_isAlpha).mp taken
  cases following with
  | nil => exact separates.ends path rest
  | cons first others =>
      constructor
      · rintro _ ⟨⟩
        exact ends.name first rfl
      · rintro noProperty _ ⟨⟩
        cases others with
        | nil =>
            rintro _ ⟨⟩
            exact separates.startsNone
        | cons second others => exact ends.property noProperty (second :: others) rfl

theorem Separates.startsNone_head {c : Char} (separates : Separates c) {text : List Char}
    (unnamed : ∀ first ∈ text.head?, startsName Char.isAlpha first = false) (rest : List Char) :
    ∀ first ∈ (text ++ c :: rest).head?, startsName Char.isAlpha first = false := by
  cases text with
  | nil =>
      rintro _ ⟨⟩
      exact separates.startsNone
  | cons first others => exact unnamed

theorem Separates.noCast {c : Char} (separates : Separates c) {text : List Char}
    (noCast : ∀ tail, text = ':' :: tail → False) (rest : List Char) :
    ∀ tail, text ++ c :: rest = ':' :: tail → False := by
  cases text with
  | nil =>
      rintro _ ⟨⟩
      exact separates.2.2 rfl
  | cons first others =>
      rintro _ ⟨⟩
      exact noCast others rfl

/-- A placeholder is no quotation and opens none. -/
theorem after_placeholder {text following : List Char} {path : Path}
    (taken : Path.take? Char.isAlpha text = some (path, following)) :
    Quotation.outside.after (':' :: text) = Quotation.outside.after following := by
  rw [← Path.append_of_take? taken, Quotation.after_cons, Quotation.after_append]
  have named := Path.IsNamed.of_take? letters_isAlpha taken
  exact congrArg (Quotation.after · following) (named.neutral letters_isAlpha).plain.after

/-- Text is divided apart before a separator. -/
theorem Separates.pieces_append {c : Char} (separates : Separates c) (state : Quotation)
    (text rest : List Char) :
    pieces state (text ++ c :: rest) =
      pieces state text ++ pieces (state.after text) (c :: rest) := by
  fun_induction pieces state text with
  | case1 => rfl
  | case2 text inductionHypothesis =>
      rw [List.cons_append, List.cons_append, pieces_cast, inductionHypothesis]
      rfl
  | case3 text _ path following taken _ inductionHypothesis =>
      rw [List.cons_append, pieces_placeholder (separates.take?_append taken rest),
        inductionHypothesis, after_placeholder taken]
      rfl
  | case4 text noCast absent inductionHypothesis =>
      have stillAbsent : Path.take? Char.isAlpha (text ++ c :: rest) = none :=
        Path.take?_eq_none_iff.mpr
          (separates.startsNone_head (Path.take?_eq_none_iff.mp absent) rest)
      rw [List.cons_append, pieces_colon (separates.noCast noCast rest) stillAbsent,
        inductionHypothesis]
      rfl
  | case5 state first text _ plain inductionHypothesis =>
      rw [List.cons_append, pieces_char plain, inductionHypothesis]
      rfl

/-- Text without quotes and colons is plain, whatever comes before it. -/
theorem pieces_unmarked {state : Quotation} (proper : state.Proper) {text : List Char}
    (plain : Quotation.Plain text) (noColon : ':' ∉ text) (rest : List Char) :
    pieces state (text ++ rest) = text.map Piece.char ++ pieces state rest := by
  induction text with
  | nil => rfl
  | cons c text inductionHypothesis =>
      have uncast : c ≠ ':' := by
        rintro rfl
        exact noColon List.mem_cons_self
      have unquoted : Quotation.Plain [c] :=
        List.forall_mem_singleton.mpr (plain c List.mem_cons_self)
      have unchanged : state.step c = state := unquoted.after_eq proper
      rw [List.cons_append, pieces_char (fun _ isColon => uncast isColon), unchanged,
        inductionHypothesis plain.tail
          fun later => noColon (List.mem_cons_of_mem c later)]
      rfl

/-- Neutral text is plain. -/
theorem pieces_neutral {text : List Char} (neutral : Quotation.Neutral text) (rest : List Char) :
    pieces .outside (text ++ rest) = text.map Piece.char ++ pieces .outside rest :=
  pieces_unmarked Quotation.proper_outside neutral.plain neutral.colon_notMem rest

/-! ## Text which ends within a placeholder -/

/-- What of a placeholder may have been begun where no name goes on: nothing, its colon, or
its name and a dot. -/
inductive Begun : List Char → Prop where
  | nothing : Begun []
  | colon : Begun [':']
  | name (name : String) (isName : IsName Char.isAlpha name.toList) :
      Begun (':' :: name.toList ++ ['.'])

/-- The end of the text after a common beginning. -/
theorem mem_getLast?_append (first : List Char) {second : List Char} {c : Char}
    (last : c ∈ second.getLast?) : c ∈ (first ++ second).getLast? := by
  rw [List.getLast?_append, Option.mem_def.mp last]
  rfl

/-- A name does not end in a character which ends names. -/
theorem IsName.ends_false {isLetter : Char → Bool} {name : List Char}
    (isName : IsName isLetter name)
    (ends : ∀ c ∈ name.getLast?, continuesName isLetter c = false) : False := by
  cases last : name.getLast? with
  | none =>
      obtain ⟨c, first, _⟩ := isName.starts
      rw [List.getLast?_eq_none_iff.mp last] at first
      cases first
  | some c =>
      have continues := isName.continues c (List.mem_of_getLast? last)
      exact nomatch continues.symm.trans (ends c last)

theorem Path.IsNamed.ends_false {isLetter : Char → Bool} {path : Path}
    (named : path.IsNamed isLetter)
    (ends : ∀ c ∈ path.chars.getLast?, continuesName isLetter c = false) : False := by
  rcases path with ⟨name, property⟩
  cases property with
  | none =>
      rw [Path.chars_name] at ends
      exact named.name.ends_false ends
  | some property =>
      have isProperty := named.property property rfl
      apply isProperty.ends_false
      intro c last
      apply ends
      rw [Path.chars_property]
      exact mem_getLast?_append name.toList (mem_getLast?_append ['.'] last)

/-- A placeholder with text after it is complete, unless the text is a dot which a property
may follow. -/
theorem Path.Ends.append {path : Path} {following : List Char}
    (ends : path.Ends Char.isAlpha following) (goesOn : following ≠ [])
    (complete : ¬(following = ['.'] ∧ path.property = none)) (more : List Char) :
    path.Ends Char.isAlpha (following ++ more) := by
  cases following with
  | nil => exact absurd rfl goesOn
  | cons first others =>
      constructor
      · rintro _ ⟨⟩
        exact ends.name first rfl
      · rintro noProperty _ ⟨⟩
        cases others with
        | nil => exact absurd ⟨rfl, noProperty⟩ complete
        | cons second others => exact ends.property noProperty (second :: others) rfl

/-- Where no name goes on, text consists of finished pieces and of what has been begun of a
placeholder.  More text is divided with the latter. -/
theorem exists_begun (state : Quotation) (text : List Char)
    (ends : ∀ c ∈ text.getLast?, continuesName Char.isAlpha c = false) :
    ∃ finished begun, Begun begun ∧ writtenPieces finished ++ begun = text ∧
      (begun ≠ [] → state.after text = .outside) ∧
      ∀ more, pieces state (text ++ more) =
        finished ++ pieces (state.after text) (begun ++ more) := by
  fun_induction pieces state text with
  | case1 state => exact ⟨[], [], .nothing, rfl, fun begun => absurd rfl begun, fun _ => rfl⟩
  | case2 text inductionHypothesis =>
      obtain ⟨finished, begun, isBegun, whole, outside, divided⟩ :=
        inductionHypothesis fun c last => ends c (mem_getLast?_append [':', ':'] last)
      refine ⟨.char ':' :: .char ':' :: finished, begun, isBegun, ?_, outside, fun more => ?_⟩
      · rw [← whole]
        rfl
      · rw [List.cons_append, List.cons_append, pieces_cast, divided]
        rfl
  | case3 text _ path following taken _ inductionHypothesis =>
      obtain ⟨named, endsPath, rfl⟩ := (Path.take?_eq_some_iff letters_isAlpha).mp taken
      rw [after_placeholder taken]
      by_cases dotted : following = ['.'] ∧ path.property = none
      · obtain ⟨rfl, noProperty⟩ := dotted
        refine ⟨[], ':' :: path.name.toList ++ ['.'], .name path.name named.name, ?_, fun _ => rfl,
          fun more => ?_⟩
        · rw [Path.chars, noProperty, List.append_nil]
          rfl
        · rw [Path.chars, noProperty, List.append_nil]
          rfl
      · have goesOn : following ≠ [] := by
          rintro rfl
          rw [List.append_nil] at ends
          exact named.ends_false fun c last => ends c (mem_getLast?_append [':'] last)
        obtain ⟨finished, begun, isBegun, whole, outside, divided⟩ :=
          inductionHypothesis fun c last =>
            ends c (mem_getLast?_append (':' :: path.chars) last)
        refine ⟨.placeholder path :: finished, begun, isBegun, ?_, outside, fun more => ?_⟩
        · rw [← whole, writtenPieces_cons, List.append_assoc]
          rfl
        · have takenToo := Path.take?_append letters_isAlpha taken
            (endsPath.append goesOn dotted more)
          rw [List.cons_append, pieces_placeholder takenToo, divided]
          rfl
  | case4 text noCast absent inductionHypothesis =>
      cases text with
      | nil =>
          exact ⟨[], [':'], .colon, rfl, fun _ => rfl, fun _ => rfl⟩
      | cons c text =>
          obtain ⟨finished, begun, isBegun, whole, outside, divided⟩ :=
            inductionHypothesis fun other last =>
              ends other (mem_getLast?_append [':'] last)
          refine ⟨.char ':' :: finished, begun, isBegun, ?_, outside, fun more => ?_⟩
          · rw [← whole]
            rfl
          · have unnamed := Path.take?_eq_none_iff.mp absent
            have absentToo : Path.take? Char.isAlpha (c :: text ++ more) = none :=
              Path.take?_eq_none_iff.mpr unnamed
            have noCastToo : ∀ tail, c :: text ++ more = ':' :: tail → False := by
              rintro _ ⟨⟩
              exact noCast text rfl
            rw [List.cons_append, pieces_colon noCastToo absentToo, divided]
            rfl
  | case5 state c text _ plain inductionHypothesis =>
      obtain ⟨finished, begun, isBegun, whole, outside, divided⟩ :=
        inductionHypothesis fun other last =>
          ends other (mem_getLast?_append [c] last)
      refine ⟨.char c :: finished, begun, isBegun, ?_, outside, fun more => ?_⟩
      · rw [← whole]
        rfl
      · rw [List.cons_append, pieces_char plain, divided]
        rfl

end NamedSql.Sql
