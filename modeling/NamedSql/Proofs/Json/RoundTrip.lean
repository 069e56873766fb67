import NamedSql.Json.Parser
import NamedSql.Proofs.Json.Literals
import NamedSql.Proofs.Json.Numerals

/-!
# Reading what is printed

Compact text is read as the document which it was printed for.  The text is divided into the
lexemes of the document, and these are read as the document in its raw form, whatever comes
before and after them.
-/

namespace NamedSql.Json

/-! ## Dividing text -/

/-- No value goes on with the text. -/
def Ends (rest : List Char) : Prop :=
  ∀ c ∈ rest.head?, isNumeric c = false ∧ c.isAlpha = false

theorem ends_cons {c : Char} {rest : List Char} (mark : isNumeric c = false ∧ c.isAlpha = false) :
    Ends (c :: rest) := by
  rintro _ ⟨⟩
  exact mark

variable {found : List Lexeme} {rest : List Char}

theorem lexFrom_punctuation (c : Char) {lexeme : Lexeme}
    (mark : Lexeme.ofPunctuation? c = some lexeme) :
    lexFrom found (c :: rest) = lexFrom (lexeme :: found) rest := by
  have noSeparator : isSeparator c = false := by
    unfold Lexeme.ofPunctuation? at mark
    split at mark
    all_goals first | rfl | cases mark
  rw [lexFrom, noSeparator, mark]
  rfl

/-- A literal is divided off as one lexeme. -/
theorem lexFrom_stringText (text : String) :
    lexFrom found ((stringText text).toList ++ rest) =
      lexFrom (.string (some text) :: found) rest := by
  have quoted : (stringText text).toList ++ rest =
      '\x22' :: (text.toList.flatMap escape ++ '\x22' :: rest) := by
    simp [stringText]
  have noSeparator : isSeparator '\x22' = false := rfl
  have noPunctuation : Lexeme.ofPunctuation? '\x22' = none := rfl
  rw [quoted, lexFrom, noSeparator, noPunctuation, if_neg Bool.false_ne_true]
  dsimp only
  rw [if_pos rfl]
  split
  · next none =>
    rw [stringBody_escaped] at none
    cases none
  · next body after same =>
    rw [stringBody_escaped] at same
    cases same
    rw [if_pos (isBody_escaped _), unescape_escaped, Option.map_some, String.ofList_toList]

/-- A number or word is divided off as one lexeme if its characters belong together. -/
theorem lexFrom_lexeme {c : Char} {tail : List Char} {value : Option Json}
    (neither : isSeparator c = false ∧ Lexeme.ofPunctuation? c = none ∧ c ≠ '\x22')
    (together : ∀ other ∈ tail, belongsWith c other = true)
    (ends : ∀ other ∈ rest.head?, belongsWith c other = false)
    (denotes : (if isNumeric c then (Numeral.ofLexeme? (c :: tail)).map Numeral.value?
      else (word? (c :: tail)).map some) = some value) :
    lexFrom found ((c :: tail) ++ rest) = lexFrom (.scalar value :: found) rest := by
  obtain ⟨noSeparator, noPunctuation, noQuote⟩ := neither
  obtain ⟨front, after⟩ := Text.span_append together ends
  rw [List.cons_append, lexFrom, noSeparator, noPunctuation, if_neg Bool.false_ne_true]
  dsimp only
  rw [if_neg noQuote, front, after, denotes]

/-- Characters of numbers are no marks. -/
theorem neither_of_isNumeric {c : Char} (numeric : isNumeric c = true) :
    isSeparator c = false ∧ Lexeme.ofPunctuation? c = none ∧ c ≠ '\x22' := by
  constructor
  · rw [← Bool.not_eq_true]
    intro separator
    simp only [isSeparator, Bool.or_eq_true, beq_iff_eq] at separator
    rcases separator with ((rfl | rfl) | rfl) | rfl <;> cases numeric
  · constructor
    · unfold Lexeme.ofPunctuation?
      split
      all_goals first | rfl | cases numeric
    · rintro rfl
      cases numeric

/-- A numeral is divided off as one lexeme. -/
theorem lexFrom_numeral {numeral : Numeral} (proper : numeral.Proper) (ends : Ends rest) :
    lexFrom found (numeral.text ++ rest) = lexFrom (.scalar numeral.value? :: found) rest := by
  have numeric := Numeral.isNumeric_of_mem_text proper
  have read := Numeral.ofLexeme?_text proper
  cases same : numeral.text with
  | nil => exact absurd same (Numeral.text_ne_nil proper)
  | cons c tail =>
      rw [same] at numeric read
      obtain ⟨first, others⟩ := List.forall_mem_cons.mp numeric
      have together : belongsWith c = isNumeric := by
        funext other
        rw [belongsWith, first]
        rfl
      apply lexFrom_lexeme (neither_of_isNumeric first)
      · rw [together]
        exact others
      · rw [together]
        exact fun other among => (ends other among).1
      · rw [if_pos first, read, Option.map_some]

/-- A word is divided off as one lexeme. -/
theorem lexFrom_word {word : List Char} {value : Json} (denotes : word? word = some value)
    (ends : Ends rest) : lexFrom found (word ++ rest) = lexFrom (.scalar value :: found) rest := by
  have letters : ∃ c tail, word = c :: tail ∧ belongsWith c = Char.isAlpha ∧
      (isSeparator c = false ∧ Lexeme.ofPunctuation? c = none ∧ c ≠ '\x22') ∧
      isNumeric c = false ∧ ∀ other ∈ tail, other.isAlpha = true := by
    unfold word? at denotes
    split at denotes
    · next same => exact ⟨_, _, same, rfl, by decide, rfl, List.all_eq_true.mp rfl⟩
    · split at denotes
      · next same => exact ⟨_, _, same, rfl, by decide, rfl, List.all_eq_true.mp rfl⟩
      · split at denotes
        · next same => exact ⟨_, _, same, rfl, by decide, rfl, List.all_eq_true.mp rfl⟩
        · cases denotes
  obtain ⟨c, tail, rfl, together, neither, notNumeric, alphabetic⟩ := letters
  apply lexFrom_lexeme neither
  · rw [together]
    exact alphabetic
  · rw [together]
    exact fun other among => (ends other among).2
  · rw [notNumeric, denotes]
    rfl

/-! ## Documents -/

/-- Documents whose text denotes them: integers fit in 64 bits, members are sorted by name, and
no object is taken for embedded text. -/
inductive Expressible : Json → Prop where
  | null : Expressible .null
  | bool (value : Bool) : Expressible (.bool value)
  | int {n : Int} (low : -9223372036854775808 ≤ n) (high : n < 18446744073709551616) :
      Expressible (.int n)
  | double (value : Double) : Expressible (.double value)
  | str (text : String) : Expressible (.str text)
  | arr {items : List Json} (each : ∀ item ∈ items, Expressible item) : Expressible (.arr items)
  | obj {members : List (String × Json)}
      (sorted : members.Pairwise fun left right => left.1 < right.1)
      (plain : ∀ member ∈ members.head?, member.1 ≠ embeddedName)
      (each : ∀ member ∈ members, Expressible member.2) : Expressible (.obj members)

mutual

/-- The lexemes of a document. -/
def lexemes : Json → List Lexeme
  | .str text => [.string (some text)]
  | .arr items => .openArray :: (itemLexemes items ++ [.closeArray])
  | .obj members => .openObject :: (memberLexemes members ++ [.closeObject])
  | scalar => [.scalar scalar]

/-- The lexemes of items, separated by commas. -/
def itemLexemes : List Json → List Lexeme
  | [] => []
  | [item] => item.lexemes
  | item :: rest => item.lexemes ++ .comma :: itemLexemes rest

/-- The lexemes of members, separated by commas. -/
def memberLexemes : List (String × Json) → List Lexeme
  | [] => []
  | [(name, value)] => .string (some name) :: .colon :: value.lexemes
  | (name, value) :: rest =>
    .string (some name) :: .colon :: (value.lexemes ++ .comma :: memberLexemes rest)

end

mutual

/-- The text of a document is divided into its lexemes. -/
theorem lexFrom_compact {rest : List Char} (ends : Ends rest) : ∀ {value : Json},
    Expressible value → ∀ found,
      lexFrom found (value.compact.toList ++ rest) = lexFrom (value.lexemes.reverse ++ found) rest
  | .null, _, found => lexFrom_word rfl ends
  | .bool true, _, found => lexFrom_word rfl ends
  | .bool false, _, found => lexFrom_word rfl ends
  | .int n, .int low high, found => by
      have same : (Json.int n).compact.toList = (Numeral.ofInt n).text := Numeral.text_ofInt n
      rw [same, lexFrom_numeral (Numeral.proper_ofInt n) ends, Numeral.value?_ofInt low high]
      rfl
  | .double x, _, found => by
      obtain ⟨numeral, proper, same, denotes⟩ := Numeral.exists_numeral_of_double x
      have same : (Json.double x).compact.toList = numeral.text := same
      rw [same, lexFrom_numeral proper ends, denotes]
      rfl
  | .str text, _, found => lexFrom_stringText text
  | .arr items, .arr each, found => by
      have marks : Ends (']' :: rest) := ends_cons (by decide)
      have punctuation : (Json.arr items).compact.toList ++ rest =
          '[' :: ((compactItems items).toList ++ ']' :: rest) := by
        simp [compact]
      rw [punctuation, lexFrom_punctuation '[' rfl,
        lexFrom_compactItems marks each, lexFrom_punctuation ']' rfl]
      simp [lexemes]
  | .obj members, .obj _ _ each, found => by
      have marks : Ends ('}' :: rest) := ends_cons (by decide)
      have punctuation : (Json.obj members).compact.toList ++ rest =
          '{' :: ((compactMembers members).toList ++ '}' :: rest) := by
        simp [compact]
      rw [punctuation, lexFrom_punctuation '{' rfl,
        lexFrom_compactMembers marks each, lexFrom_punctuation '}' rfl]
      simp [lexemes]

theorem lexFrom_compactItems {rest : List Char} (ends : Ends rest) : ∀ {items : List Json},
    (∀ item ∈ items, Expressible item) → ∀ found,
      lexFrom found ((compactItems items).toList ++ rest) =
        lexFrom ((itemLexemes items).reverse ++ found) rest
  | [], _, found => rfl
  | [item], each, found => lexFrom_compact ends (each item List.mem_cons_self) found
  | item :: next :: later, each, found => by
      obtain ⟨here, others⟩ := List.forall_mem_cons.mp each
      have marks : Ends (',' :: ((compactItems (next :: later)).toList ++ rest)) :=
        ends_cons (by decide)
      have comma : (compactItems (item :: next :: later)).toList ++ rest =
          item.compact.toList ++ ',' :: ((compactItems (next :: later)).toList ++ rest) := by
        simp [compactItems]
      rw [comma, lexFrom_compact marks here, lexFrom_punctuation ',' rfl,
        lexFrom_compactItems ends others]
      simp [itemLexemes]

theorem lexFrom_compactMembers {rest : List Char} (ends : Ends rest) :
    ∀ {members : List (String × Json)}, (∀ member ∈ members, Expressible member.2) → ∀ found,
      lexFrom found ((compactMembers members).toList ++ rest) =
        lexFrom ((memberLexemes members).reverse ++ found) rest
  | [], _, found => rfl
  | [(name, value)], each, found => by
      have colon : (compactMembers [(name, value)]).toList ++ rest =
          (stringText name).toList ++ ':' :: (value.compact.toList ++ rest) := by
        simp [compactMembers]
      rw [colon, lexFrom_stringText, lexFrom_punctuation ':' rfl,
        lexFrom_compact ends (each _ List.mem_cons_self)]
      simp [memberLexemes]
  | (name, value) :: next :: later, each, found => by
      obtain ⟨here, others⟩ := List.forall_mem_cons.mp each
      have marks : Ends (',' :: ((compactMembers (next :: later)).toList ++ rest)) :=
        ends_cons (by decide)
      have colon : (compactMembers ((name, value) :: next :: later)).toList ++ rest =
          (stringText name).toList ++ ':' :: (value.compact.toList ++
            ',' :: ((compactMembers (next :: later)).toList ++ rest)) := by
        simp [compactMembers]
      rw [colon, lexFrom_stringText, lexFrom_punctuation ':' rfl,
        lexFrom_compact marks here, lexFrom_punctuation ',' rfl,
        lexFrom_compactMembers ends others]
      simp [memberLexemes]

end

/-! ## Reading lexemes -/

mutual

/-- The raw form of a document. -/
def raw : Json → Raw
  | .arr items => .arr (rawItems items)
  | .obj members => .obj (rawMembers members)
  | scalar => .scalar (some scalar)

/-- The raw form of items. -/
def rawItems : List Json → List Raw
  | [] => []
  | item :: rest => item.raw :: rawItems rest

/-- The raw form of members. -/
def rawMembers : List (String × Json) → List (Option String × Raw)
  | [] => []
  | (name, value) :: rest => (some name, value.raw) :: rawMembers rest

end

/-- Reading goes on after one lexeme. -/
theorem foldlM_step {reading next : Reading} {lexeme : Lexeme} {later : List Lexeme}
    (stepped : reading.step lexeme = some next) :
    (lexeme :: later).foldlM Reading.step reading = later.foldlM Reading.step next := by
  rw [List.foldlM_cons, stepped]
  rfl

/-- Where a value may come. -/
def Expected.Value (expected : Expected) : Prop :=
  expected = .value ∨ expected = .firstItem

mutual

/-- The lexemes of a document are read as its raw form, wherever a value may come. -/
theorem foldlM_lexemes {expected : Expected} (awaited : expected.Value) : ∀ (value : Json) frames
    later, (value.lexemes ++ later).foldlM Reading.step ⟨expected, frames⟩ =
      later.foldlM Reading.step ⟨.next value.raw, frames⟩
  | .str text, frames, later => by
      rcases awaited with rfl | rfl <;> exact foldlM_step rfl
  | .null, frames, later | .bool _, frames, later | .int _, frames, later
  | .double _, frames, later => by
      rcases awaited with rfl | rfl <;> exact foldlM_step rfl
  | .arr items, frames, later => by
      have opened : Reading.step ⟨expected, frames⟩ .openArray =
          some ⟨.firstItem, .array [] :: frames⟩ := by
        rcases awaited with rfl | rfl <;> rfl
      rw [lexemes, List.cons_append, List.append_assoc, foldlM_step opened]
      cases items with
      | nil => exact foldlM_step rfl
      | cons item rest => exact foldlM_itemLexemes (.inr rfl) (item :: rest) nofun [] frames later
  | .obj members, frames, later => by
      have opened : Reading.step ⟨expected, frames⟩ .openObject =
          some ⟨.firstName, .object [] :: frames⟩ := by
        rcases awaited with rfl | rfl <;> rfl
      rw [lexemes, List.cons_append, List.append_assoc, foldlM_step opened]
      cases members with
      | nil => exact foldlM_step rfl
      | cons member rest =>
          exact foldlM_memberLexemes (.inr rfl) (member :: rest) nofun [] frames later

theorem foldlM_itemLexemes {expected : Expected} (awaited : expected.Value) :
    ∀ items, items ≠ [] → ∀ before frames later,
      (itemLexemes items ++ Lexeme.closeArray :: later).foldlM Reading.step
        ⟨expected, .array before :: frames⟩ =
      later.foldlM Reading.step ⟨.next (.arr (before.reverse ++ rawItems items)), frames⟩
  | [], nonempty, _, _, _ => absurd rfl nonempty
  | [item], _, before, frames, later => by
      have closed : Reading.step ⟨.next item.raw, .array before :: frames⟩ .closeArray =
          some ⟨.next (.arr (before.reverse ++ rawItems [item])), frames⟩ := by
        rw [rawItems, rawItems, ← List.reverse_cons]
        rfl
      rw [itemLexemes, foldlM_lexemes awaited, foldlM_step closed]
  | item :: next :: rest, _, before, frames, later => by
      have divided : itemLexemes (item :: next :: rest) =
        item.lexemes ++ .comma :: itemLexemes (next :: rest) := rfl
      have continued : Reading.step ⟨.next item.raw, .array before :: frames⟩ .comma =
        some ⟨.value, .array (item.raw :: before) :: frames⟩ := rfl
      rw [divided, List.append_assoc, foldlM_lexemes awaited, List.cons_append,
        foldlM_step continued, foldlM_itemLexemes (.inl rfl) _ (List.cons_ne_nil _ _)]
      simp [rawItems]

theorem foldlM_memberLexemes {expected : Expected}
    (awaited : expected = .name ∨ expected = .firstName) :
    ∀ members, members ≠ [] → ∀ before frames later,
      (memberLexemes members ++ Lexeme.closeObject :: later).foldlM Reading.step
        ⟨expected, .object before :: frames⟩ =
      later.foldlM Reading.step ⟨.next (.obj (before.reverse ++ rawMembers members)), frames⟩
  | [], nonempty, _, _, _ => absurd rfl nonempty
  | (name, value) :: rest, _, before, frames, later => by
      have named : Reading.step ⟨expected, .object before :: frames⟩ (.string (some name)) =
          some ⟨.colon (some name), .object before :: frames⟩ := by
        rcases awaited with rfl | rfl <;> rfl
      have separated : Reading.step ⟨.colon (some name), .object before :: frames⟩ .colon =
        some ⟨.value, .member before (some name) :: frames⟩ := rfl
      cases rest with
      | nil =>
          have closed : Reading.step ⟨.next value.raw, .member before (some name) :: frames⟩
              .closeObject =
                some ⟨.next (.obj (before.reverse ++ rawMembers [(name, value)])), frames⟩ := by
            rw [rawMembers, rawMembers, ← List.reverse_cons]
            rfl
          rw [memberLexemes, List.cons_append, List.cons_append, foldlM_step named,
            foldlM_step separated, foldlM_lexemes (.inl rfl), foldlM_step closed]
      | cons next rest =>
          have divided : memberLexemes ((name, value) :: next :: rest) =
            .string (some name) :: .colon ::
              (value.lexemes ++ .comma :: memberLexemes (next :: rest)) := rfl
          have continued : Reading.step ⟨.next value.raw, .member before (some name) :: frames⟩
              .comma = some ⟨.name, .object ((some name, value.raw) :: before) :: frames⟩ := rfl
          rw [divided, List.cons_append, List.cons_append, foldlM_step named,
            foldlM_step separated, List.append_assoc, foldlM_lexemes (.inl rfl),
            List.cons_append, foldlM_step continued,
            foldlM_memberLexemes (.inl rfl) _ (List.cons_ne_nil _ _)]
          simp [rawMembers]

end

/-! ## What the raw form denotes -/

/-- A member whose name comes after all others is inserted at the end. -/
theorem insert_of_lt {name : String} {value : Json} {members : List (String × Json)}
    (greatest : ∀ member ∈ members, member.1 < name) :
    insert name value members = members ++ [(name, value)] := by
  induction members with
  | nil => rfl
  | cons member rest inductionHypothesis =>
      obtain ⟨here, others⟩ := List.forall_mem_cons.mp greatest
      rw [insert, if_neg (String.lt_asymm here), if_neg (String.ne_of_lt here).symm,
        inductionHypothesis others]
      rfl

/-- Inserting members in their order yields them. -/
theorem foldl_insert_of_sorted {members added : List (String × Json)}
    (sorted : (members ++ added).Pairwise fun left right => left.1 < right.1) :
    added.foldl (fun ordered member => insert member.1 member.2 ordered) members =
      members ++ added := by
  induction added generalizing members with
  | nil => exact (List.append_nil _).symm
  | cons member rest inductionHypothesis =>
      have greatest : ∀ earlier ∈ members, earlier.1 < member.1 := fun earlier among =>
        (List.pairwise_append.mp sorted).2.2 earlier among member List.mem_cons_self
      rw [List.append_cons] at sorted ⊢
      rw [List.foldl_cons, insert_of_lt greatest, inductionHypothesis sorted]

theorem object_of_sorted {members : List (String × Json)}
    (sorted : members.Pairwise fun left right => left.1 < right.1) :
    object members = .obj members :=
  congrArg Json.obj (foldl_insert_of_sorted sorted)

/-- Members which do not start with the reserved name embed nothing. -/
theorem embeddedText?_rawMembers {members : List (String × Json)}
    (plain : ∀ member ∈ members.head?, member.1 ≠ embeddedName) :
    embeddedText? (some embeddedName) Raw.text? (rawMembers members) = none := by
  cases members with
  | nil => rfl
  | cons member rest =>
      rcases member with ⟨name, value⟩
      have different : name ≠ embeddedName := plain _ rfl
      simp [rawMembers, embeddedText?, different]

mutual

/-- The raw form of a document denotes the document. -/
theorem value?_raw (embedded? : String → Option Json) : ∀ {value : Json}, Expressible value →
    value.raw.value? embedded? = some value
  | .null, _ | .bool _, _ | .int _, _ | .double _, _ | .str _, _ => rfl
  | .arr items, .arr each => by
      rw [raw, Raw.value?, itemValues?_raw embedded? each]
      rfl
  | .obj members, .obj sorted plain each => by
      rw [raw, Raw.value?, embeddedText?_rawMembers plain]
      dsimp only
      rw [memberValues?_raw embedded? each, Option.map_some, object_of_sorted sorted]

theorem itemValues?_raw (embedded? : String → Option Json) : ∀ {items : List Json},
    (∀ item ∈ items, Expressible item) → Raw.itemValues? embedded? (rawItems items) = some items
  | [], _ => rfl
  | item :: rest, each => by
      obtain ⟨here, others⟩ := List.forall_mem_cons.mp each
      rw [rawItems, Raw.itemValues?, value?_raw embedded? here, itemValues?_raw embedded? others]
      rfl

theorem memberValues?_raw (embedded? : String → Option Json) :
    ∀ {members : List (String × Json)}, (∀ member ∈ members, Expressible member.2) →
      Raw.memberValues? embedded? (rawMembers members) = some members
  | [], _ => rfl
  | (name, value) :: rest, each => by
      obtain ⟨here, others⟩ := List.forall_mem_cons.mp each
      rw [rawMembers, Raw.memberValues?, value?_raw embedded? here,
        memberValues?_raw embedded? others]
      rfl

end

/-! ## Round trip -/

/-- Compact text has the raw form of the document. -/
theorem Raw.parse?_compact {value : Json} (expressible : Expressible value) :
    Raw.parse? value.compact = some value.raw := by
  have divided : lex value.compact.toList = some value.lexemes := by
    have ends : Ends [] := nofun
    have whole := lexFrom_compact ends expressible []
    rw [List.append_nil, List.append_nil] at whole
    rw [lex, whole, lexFrom, List.reverse_reverse]
  have read := foldlM_lexemes (.inl rfl) value [] []
  rw [List.append_nil] at read
  rw [Raw.parse?, divided, Option.bind_some, Raw.ofLexemes?, read]
  rfl

/-- Compact text is read as the document, unless the document is nested too deep. -/
theorem parse?_compact {value : Json} (expressible : Expressible value)
    (shallow : value.raw.depth ≤ depthLimit) : Json.parse? value.compact = some value := by
  rw [Json.parse?, parseWithin?, Raw.parse?_compact expressible]
  exact (if_pos shallow).trans (value?_raw _ expressible)

end NamedSql.Json
