import NamedSql.Proofs.Sql.Spellings
import NamedSql.Proofs.Sql.Tokens

/-!
# SQL text in bytes

A scanner which goes over text byte by byte takes each byte for the character of the same number.
Since all marks and names are ASCII, it finds the same tokens as one which goes over characters,
and never divides a character.
-/

namespace NamedSql.Sql

/-! ## Bytes of text -/

/-- The bytes of text in UTF-8, each as the character of the same number. -/
def byteChars (text : List Char) : List Char :=
  (String.ofList text).toByteArray.data.toList.map Char.ofUInt8

/-- The number of bytes of text. -/
def byteSize (text : List Char) : Nat :=
  (String.ofList text).utf8ByteSize

section Bytes

theorem byteSize_append (first second : List Char) :
    byteSize (first ++ second) = byteSize first + byteSize second := by
  rw [byteSize, String.ofList_append, String.utf8ByteSize_append]
  rfl

variable {c : Char} {text rest : List Char}

theorem byteChars_eq_flatMap (text : List Char) :
    byteChars text = text.flatMap fun c => (String.utf8EncodeChar c).map Char.ofUInt8 := by
  rw [byteChars, String.toByteArray_ofList, List.utf8Encode, List.toList_data_toByteArray,
    List.map_flatMap]

@[simp]
theorem byteChars_nil : byteChars [] = [] := by
  rw [byteChars_eq_flatMap, List.flatMap_nil]

@[simp]
theorem byteChars_append (first second : List Char) :
    byteChars (first ++ second) = byteChars first ++ byteChars second := by
  simp only [byteChars_eq_flatMap, List.flatMap_append]

theorem byteChars_cons (c : Char) (text : List Char) :
    byteChars (c :: text) = byteChars [c] ++ byteChars text :=
  byteChars_append [c] text

theorem length_byteChars (text : List Char) : (byteChars text).length = byteSize text := by
  rw [byteChars, List.length_map, Array.length_toList]
  rfl

/-- An ASCII character is its own byte. -/
theorem byteChars_cons_of_ascii (ascii : c.toNat < 128) (text : List Char) :
    byteChars (c :: text) = c :: byteChars text := by
  have code : c.val.toNat ≤ 127 := Nat.le_of_lt_succ ascii
  have same : Char.ofUInt8 (UInt8.ofNat c.val.toNat) = c :=
    Char.toNat_inj.mp (UInt8.toNat_ofNat_of_lt' (ascii.trans (by decide)))
  rw [byteChars_eq_flatMap, List.flatMap_cons, String.utf8EncodeChar, if_pos code,
    List.map_singleton, same, byteChars_eq_flatMap, List.singleton_append]

theorem byteChars_of_ascii (ascii : ∀ c ∈ text, c.toNat < 128) : byteChars text = text := by
  induction text with
  | nil => exact byteChars_nil
  | cons c text inductionHypothesis =>
      rw [byteChars_cons_of_ascii (ascii c List.mem_cons_self),
        inductionHypothesis fun other later => ascii other (List.mem_cons_of_mem c later)]

/-- The bytes of any other character are not ASCII. -/
theorem le_of_mem_byteChars (beyond : 128 ≤ c.toNat) :
    ∀ byte ∈ byteChars [c], 128 ≤ byte.toNat := by
  have more : ¬c.val.toNat ≤ 127 := Nat.not_le.mpr beyond
  rw [byteChars_eq_flatMap, List.flatMap_singleton, List.forall_mem_map]
  change ∀ byte ∈ String.utf8EncodeChar c, 128 ≤ byte.toNat
  rw [String.utf8EncodeChar, if_neg more]
  split
  case' isFalse => split
  all_goals
    simp only [List.forall_mem_cons, UInt8.toNat_ofNat', List.not_mem_nil, false_implies,
      implies_true, and_true]
    omega

theorem byteChars_ne_nil (c : Char) : byteChars [c] ≠ [] := by
  rw [byteChars_eq_flatMap, List.flatMap_singleton, ← List.length_pos_iff, List.length_map,
    String.length_utf8EncodeChar]
  exact c.utf8Size_pos

/-- An ASCII byte is a character. -/
theorem exists_of_byteChars_eq_cons (whole : byteChars text = c :: rest) (ascii : c.toNat < 128) :
    ∃ following, text = c :: following ∧ rest = byteChars following := by
  cases text with
  | nil => cases byteChars_nil.symm.trans whole
  | cons first following =>
      by_cases firstAscii : first.toNat < 128
      · rw [byteChars_cons_of_ascii firstAscii] at whole
        cases whole
        exact ⟨following, rfl, rfl⟩
      · obtain ⟨byte, bytes, split⟩ := List.exists_cons_of_ne_nil (byteChars_ne_nil first)
        rw [byteChars_cons, split] at whole
        cases whole
        have := le_of_mem_byteChars (Nat.not_lt.mp firstAscii) c (by simp [split])
        omega

end Bytes

/-! ## Pieces in bytes -/

/-- A piece which is read byte by byte. -/
def Piece.inBytes : Piece → List Piece
  | .char c => (byteChars [c]).map .char
  | .placeholder path => [.placeholder path]

/-- A token which is read byte by byte. -/
def Token.inBytes : Token → Token
  | .text chars => .text (byteChars chars)
  | .placeholder path => .placeholder path

section Pieces

variable {state : Quotation} {c : Char} {text rest following : List Char} {path : Path}

theorem Path.IsNamed.ascii (named : path.IsNamed Char.isAlpha) :
    ∀ c ∈ path.chars, c.toNat < 128 := by
  intro c among
  rcases named.continuesName_or_dot among with continues | rfl
  · exact lt_of_continuesName continues
  · decide

/-- A byte with which a name goes on is a character. -/
theorem mem_head?_of_byteChars (first : c ∈ (byteChars text).head?) (ascii : c.toNat < 128) :
    c ∈ text.head? := by
  obtain ⟨tail, whole⟩ := List.head?_eq_some_iff.mp first
  obtain ⟨following, rfl, -⟩ := exists_of_byteChars_eq_cons whole ascii
  rfl

theorem startsNone_byteChars (unnamed : ∀ c ∈ text.head?, startsName Char.isAlpha c = false) :
    ∀ c ∈ (byteChars text).head?, startsName Char.isAlpha c = false := by
  intro c first
  by_contra starts
  rw [Bool.not_eq_false] at starts
  have ascii := lt_of_continuesName (continuesName_of_startsName starts)
  exact nomatch (unnamed c (mem_head?_of_byteChars first ascii)).symm.trans starts

theorem Path.Ends.byteChars (ends : path.Ends Char.isAlpha text) :
    path.Ends Char.isAlpha (byteChars text) := by
  constructor
  · intro c first
    by_contra continues
    rw [Bool.not_eq_false] at continues
    have within := mem_head?_of_byteChars first (lt_of_continuesName continues)
    exact nomatch (ends.name c within).symm.trans continues
  · intro noProperty tail dotted
    obtain ⟨following, rfl, rfl⟩ := exists_of_byteChars_eq_cons dotted (by decide)
    exact startsNone_byteChars (ends.property noProperty following rfl)

theorem take?_byteChars (taken : Path.take? Char.isAlpha text = some (path, rest)) :
    Path.take? Char.isAlpha (byteChars text) = some (path, byteChars rest) := by
  obtain ⟨named, ends, rfl⟩ := (Path.take?_eq_some_iff letters_isAlpha).mp taken
  refine (Path.take?_eq_some_iff letters_isAlpha).mpr ⟨named, ends.byteChars, ?_⟩
  rw [byteChars_append, byteChars_of_ascii named.ascii]

/-- Characters which are not ASCII neither quote nor mark anything. -/
theorem isNeutral_of_le (beyond : 128 ≤ c.toNat) : Quotation.isNeutral c = true := by
  rcases Quotation.isNeutral_or c with neutral | rfl | rfl | rfl | rfl
  · exact neutral
  all_goals exact absurd beyond (by decide)

theorem neutral_byteChars (beyond : 128 ≤ c.toNat) : Quotation.Neutral (byteChars [c]) :=
  fun byte among => isNeutral_of_le (le_of_mem_byteChars beyond byte among)

/-- A character which is no ASCII colon is plain byte by byte. -/
theorem pieces_byteChars_cons (proper : state.Proper) (plain : state = .outside → c = ':' → False)
    (text : List Char) :
    pieces state (byteChars (c :: text)) =
      (Piece.char c).inBytes ++ pieces (state.step c) (byteChars text) := by
  by_cases ascii : c.toNat < 128
  · rw [byteChars_cons_of_ascii ascii, pieces_char plain, Piece.inBytes,
      byteChars_cons_of_ascii ascii, byteChars_nil]
    rfl
  · have beyond := Nat.not_lt.mp ascii
    have neutral := neutral_byteChars beyond
    have alone : Quotation.Neutral [c] := List.forall_mem_singleton.mpr (isNeutral_of_le beyond)
    have unchanged : state.step c = state := alone.plain.after_eq proper
    rw [byteChars_cons, pieces_unmarked proper neutral.plain neutral.colon_notMem, unchanged,
      Piece.inBytes]

/-- Text is divided into the same pieces byte by byte. -/
theorem pieces_byteChars (proper : state.Proper) :
    pieces state (byteChars text) = (pieces state text).flatMap Piece.inBytes := by
  have colon (text : List Char) : byteChars (':' :: text) = ':' :: byteChars text :=
    byteChars_cons_of_ascii (by decide) text
  fun_induction pieces state text with
  | case1 state => rw [byteChars_nil, pieces_nil, List.flatMap_nil]
  | case2 rest inductionHypothesis =>
      rw [colon, colon, pieces_cast, inductionHypothesis proper]
      simp [Piece.inBytes, colon]
  | case3 rest _ other remaining taken _ inductionHypothesis =>
      rw [colon, pieces_placeholder (take?_byteChars taken), inductionHypothesis proper,
        List.flatMap_cons]
      rfl
  | case4 rest noCast absent inductionHypothesis =>
      have stillAbsent : Path.take? Char.isAlpha (byteChars rest) = none :=
        Path.take?_eq_none_iff.mpr (startsNone_byteChars (Path.take?_eq_none_iff.mp absent))
      have stillNoCast : ∀ tail, byteChars rest = ':' :: tail → False := by
        intro tail cast
        obtain ⟨following, rfl, -⟩ := exists_of_byteChars_eq_cons cast (by decide)
        exact noCast following rfl
      rw [colon, pieces_colon stillNoCast stillAbsent, inductionHypothesis proper]
      simp [Piece.inBytes, colon]
  | case5 state c rest _ plain inductionHypothesis =>
      rw [pieces_byteChars_cons proper plain, inductionHypothesis (proper.step c),
        List.flatMap_cons]

end Pieces

/-! ## Tokens in bytes -/

/-- Put text before tokens, joining it with text which they begin with. -/
def Token.consText (chars : List Char) : List Token → List Token
  | .text following :: rest => .text (chars ++ following) :: rest
  | tokens => .text chars :: tokens

section Tokens

variable {text before : List Char} {tokens : List Token} {start : Nat} {path : Path}

theorem Token.ofPieces_chars_append (nonempty : text ≠ []) (rest : List Piece) :
    ofPieces (text.map .char ++ rest) = consText text (ofPieces rest) := by
  induction text with
  | nil => exact absurd rfl nonempty
  | cons c text inductionHypothesis =>
      rw [List.map_cons, List.cons_append, ofPieces_cons]
      cases text with
      | nil =>
          rw [List.map_nil, List.nil_append]
          rcases ofPieces rest with _ | ⟨_ | _, _⟩ <;> rfl
      | cons next text =>
          rw [inductionHypothesis (List.cons_ne_nil next text)]
          rcases ofPieces rest with _ | ⟨_ | _, _⟩ <;> rfl

theorem Token.map_inBytes_cons (c : Char) (tokens : List Token) :
    (cons (.char c) tokens).map inBytes = consText (byteChars [c]) (tokens.map inBytes) := by
  match tokens with
  | [] => rfl
  | .placeholder _ :: _ => rfl
  | .text chars :: rest =>
      rw [cons, List.map_cons, inBytes, byteChars_cons]
      rfl

theorem Token.ofPieces_inBytes (pieces : List Piece) :
    ofPieces (pieces.flatMap Piece.inBytes) = (ofPieces pieces).map inBytes := by
  induction pieces with
  | nil => rfl
  | cons piece rest inductionHypothesis =>
      rw [List.flatMap_cons, ofPieces_cons]
      cases piece with
      | placeholder path =>
          rw [Piece.inBytes, List.singleton_append, ofPieces_cons, inductionHypothesis]
          rfl
      | char c =>
          rw [Piece.inBytes, ofPieces_chars_append (byteChars_ne_nil c), inductionHypothesis,
            map_inBytes_cons]

/-- Text has the same tokens byte by byte. -/
theorem tokenize_byteChars (text : List Char) :
    tokenize (byteChars text) = (tokenize text).map Token.inBytes := by
  rw [tokenize, pieces_byteChars Quotation.proper_outside, Token.ofPieces_inBytes, tokenize]

/-- Tokens in bytes are written as the bytes of the tokens. -/
theorem Token.flatMap_chars_inBytes
    (named : ∀ path, .placeholder path ∈ tokens → path.IsNamed Char.isAlpha) :
    (tokens.map inBytes).flatMap chars = byteChars (tokens.flatMap chars) := by
  induction tokens with
  | nil => exact byteChars_nil.symm
  | cons token tokens inductionHypothesis =>
      have written : token.inBytes.chars = byteChars token.chars := by
        cases token with
        | text chars => rfl
        | placeholder path =>
            have ascii := (named path List.mem_cons_self).ascii
            rw [chars, byteChars_cons_of_ascii (by decide), byteChars_of_ascii ascii]
            rfl
      rw [List.map_cons, List.flatMap_cons, List.flatMap_cons, byteChars_append, written,
        inductionHypothesis fun path later => named path (List.mem_cons_of_mem token later)]

/-- The token starts at the byte of the given number. -/
def Token.StartsAt (tokens : List Token) (start : Nat) (token : Token) : Prop :=
  ∃ before, StandsAfter chars tokens before token ∧ byteSize before = start

/-- Placeholders start where they stand among the tokens in bytes. -/
theorem Token.startsAt_iff
    (named : ∀ path, .placeholder path ∈ tokens → path.IsNamed Char.isAlpha) :
    StartsAt tokens start (.placeholder path) ↔
      ∃ before, StandsAfter chars (tokens.map inBytes) before (.placeholder path) ∧
        before.length = start := by
  constructor
  · rintro ⟨_, ⟨earlier, later, rfl, rfl⟩, rfl⟩
    refine ⟨_, ⟨earlier.map inBytes, later.map inBytes, List.map_append, rfl⟩, ?_⟩
    rw [flatMap_chars_inBytes fun path among => named path (List.mem_append_left _ among),
      length_byteChars]
  · rintro ⟨_, ⟨earlier, later, divided, rfl⟩, rfl⟩
    obtain ⟨earlier, following, rfl, rfl, followed⟩ := List.map_eq_append_iff.mp divided
    obtain ⟨token, later, rfl, same, rfl⟩ := List.map_eq_cons_iff.mp followed
    cases token with
    | text chars => cases same
    | placeholder path =>
        cases same
        refine ⟨_, ⟨earlier, later, rfl, rfl⟩, ?_⟩
        rw [flatMap_chars_inBytes fun path among => named path (List.mem_append_left _ among),
          length_byteChars]

/-- Where text is divided at a character of the given number. -/
theorem exists_divided_iff {α : Type} {items : List α} {item : α} {P : List α → List α → Prop} :
    (∃ before, (∃ after, items = before ++ item :: after ∧ P before after) ∧
      before.length = start) ↔
      items[start]? = some item ∧ P (items.take start) (items.drop (start + 1)) := by
  constructor
  · rintro ⟨before, ⟨after, rfl, holds⟩, rfl⟩
    rw [List.getElem?_append_right le_rfl, Nat.sub_self, List.take_left, ← List.drop_drop,
      List.drop_left]
    exact ⟨rfl, holds⟩
  · rintro ⟨found, holds⟩
    obtain ⟨within, rfl⟩ := List.getElem?_eq_some_iff.mp found
    refine ⟨_, ⟨_, ?_, holds⟩, List.length_take_of_le within.le⟩
    rw [← List.drop_eq_getElem_cons within, List.take_append_drop]

/-- A placeholder starts at an unpaired colon outside quotations, and is the longest path after
it. -/
theorem Token.startsAt_tokenize_iff :
    StartsAt (tokenize text) start (.placeholder path) ↔
      (byteChars text)[start]? = some ':' ∧
        Quotation.outside.after ((byteChars text).take start) = .outside ∧
        ¬Paired ((byteChars text).take start) ((byteChars text).drop (start + 1)) ∧
        path.Longest Char.isAlpha ((byteChars text).drop (start + 1)) := by
  have named : ∀ path, .placeholder path ∈ tokenize text → path.IsNamed Char.isAlpha :=
    fun path among => isNamed_of_mem_tokenize path (List.mem_filterMap.mpr ⟨_, among, rfl⟩)
  rw [startsAt_iff named, ← tokenize_byteChars]
  simp only [standsAfter_tokenize_iff]
  exact exists_divided_iff

/-! ## Slices of text -/

/-- Text between two boundaries of characters. -/
structure IsSlice (sql : String) (start stop : Nat) (chars : List Char) : Prop where
  starts : String.Pos.Raw.IsValid sql ⟨start⟩
  stops : String.Pos.Raw.IsValid sql ⟨stop⟩
  content : sql.toByteArray.extract start stop = (String.ofList chars).toByteArray

theorem isValid_of_append {sql : String} {before after : List Char}
    (whole : sql.toList = before ++ after) : String.Pos.Raw.IsValid sql ⟨byteSize before⟩ := by
  refine String.Pos.Raw.isValid_iff_exists_append.mpr
    ⟨String.ofList before, String.ofList after, ?_, rfl⟩
  rw [← String.ofList_append, ← whole, String.ofList_toList]

theorem isSlice_of_append {sql : String} {before chars after : List Char}
    (whole : sql.toList = before ++ (chars ++ after)) :
    IsSlice sql (byteSize before) (byteSize before + byteSize chars) chars := by
  have joined : sql = String.ofList before ++ (String.ofList chars ++ String.ofList after) := by
    rw [← String.ofList_append, ← String.ofList_append, ← whole, String.ofList_toList]
  constructor
  · exact isValid_of_append whole
  · rw [← byteSize_append]
    exact isValid_of_append (whole.trans (List.append_assoc _ _ _).symm)
  · rw [joined, String.toByteArray_append, String.toByteArray_append]
    generalize bytesBefore : (String.ofList before).toByteArray = first
    generalize bytes : (String.ofList chars).toByteArray = middle
    have sizeBefore : byteSize before = first.size := congrArg ByteArray.size bytesBefore
    have size : byteSize chars = middle.size := congrArg ByteArray.size bytes
    rw [sizeBefore, size, ← Nat.add_zero first.size, Nat.add_assoc, Nat.zero_add,
      ByteArray.extract_append_size_add, ByteArray.extract_append_eq_left rfl]

/-- Every token is a slice of the text. -/
theorem Token.StartsAt.isSlice {sql : String} {token : Token} {skipped chars : List Char}
    (startsAt : StartsAt tokens start token) (whole : tokens.flatMap Token.chars = sql.toList)
    (divided : token.chars = skipped ++ chars) :
    IsSlice sql (start + byteSize skipped) (start + byteSize skipped + byteSize chars) chars := by
  obtain ⟨_, ⟨earlier, later, rfl, rfl⟩, rfl⟩ := startsAt
  rw [← byteSize_append]
  apply isSlice_of_append
  rw [← whole, List.flatMap_append, List.flatMap_cons, divided, List.append_assoc,
    List.append_assoc]

/-- Tokens of SQL text, whose bytes are told by their numbers. -/
structure Tokenizes (sql : String) (tokens : List Token) : Prop where
  /-- The tokens make up the text. -/
  lossless : tokens.flatMap Token.chars = sql.toList
  alternate : Token.Alternate tokens
  /-- Each text is a slice between boundaries of characters, and so is each path. -/
  text : ∀ start chars, Token.StartsAt tokens start (.text chars) →
    IsSlice sql start (start + byteSize chars) chars
  placeholder : ∀ start path, Token.StartsAt tokens start (.placeholder path) →
    IsSlice sql (start + 1) (start + 1 + byteSize path.chars) path.chars
  /-- Reading the text byte by byte gives the same tokens. -/
  bytewise : tokenize (byteChars sql.toList) = tokens.map Token.inBytes
  /-- A placeholder starts exactly at an unpaired colon outside quotations with the start of
  a name after it. -/
  starts : ∀ start, (∃ path, Token.StartsAt tokens start (.placeholder path)) ↔
    (byteChars sql.toList)[start]? = some ':' ∧
      Quotation.outside.after ((byteChars sql.toList).take start) = .outside ∧
      ¬Paired ((byteChars sql.toList).take start) ((byteChars sql.toList).drop (start + 1)) ∧
      ∃ c ∈ (byteChars sql.toList)[start + 1]?, startsName Char.isAlpha c = true
  longest : ∀ start path, Token.StartsAt tokens start (.placeholder path) →
    path.Longest Char.isAlpha ((byteChars sql.toList).drop (start + 1))

/-- SQL text is divided into its tokens without loss, at boundaries of characters, and exactly
its placeholders are found. -/
theorem tokenizes_tokenize (sql : String) : Tokenizes sql (tokenize sql.toList) := by
  have lossless : (tokenize sql.toList).flatMap Token.chars = sql.toList := by
    rw [tokenize, Token.flatMap_chars_ofPieces, writtenPieces_pieces]
  constructor
  · exact lossless
  · exact Token.alternate_ofPieces _
  · intro start chars startsAt
    exact startsAt.isSlice lossless (List.nil_append chars).symm
  · intro start path startsAt
    exact startsAt.isSlice lossless List.singleton_append.symm
  · exact tokenize_byteChars sql.toList
  · intro start
    have named : (∃ path : Path,
        path.Longest Char.isAlpha ((byteChars sql.toList).drop (start + 1))) ↔
          ∃ c ∈ (byteChars sql.toList)[start + 1]?, startsName Char.isAlpha c = true := by
      rw [Path.exists_longest_iff letters_isAlpha, List.head?_drop]
    simp only [Token.startsAt_tokenize_iff, exists_and_left, named]
  · intro start path startsAt
    exact (Token.startsAt_tokenize_iff.mp startsAt).2.2.2

end Tokens

end NamedSql.Sql
