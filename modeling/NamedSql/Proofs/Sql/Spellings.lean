import NamedSql.Proofs.Sql.Paths

/-!
# Spellings of membership clauses

A clause is spelled in any letter case, with any blanks between its parts.  The readers are
exact: they read every spelling, and nothing but spellings.
-/

namespace NamedSql.Sql

/-! ## Characters of names -/

/-- A property of all ASCII characters, checked one by one. -/
theorem forall_ascii {P : Char → Prop} (each : ∀ n, n < 128 → P (Char.ofNat n)) {c : Char}
    (ascii : c.toNat < 128) : P c := by
  have := each c.toNat ascii
  rwa [Char.ofNat_toNat] at this

theorem lt_of_continuesName {c : Char} (continues : continuesName Char.isAlpha c = true) :
    c.toNat < 128 := by
  have code : c.toNat = c.val.toNat := rfl
  have letter : c.isAlpha = (c.isUpper || c.isLower) := rfl
  have upper : c.isUpper = decide (c.val ≥ 'A'.val ∧ c.val ≤ 'Z'.val) := rfl
  have lower : c.isLower = (decide (c.val ≥ 'a'.val) && decide (c.val ≤ 'z'.val)) := rfl
  simp only [continuesName, letter, upper, lower, Char.isDigit, Bool.or_eq_true,
    Bool.and_eq_true, decide_eq_true_eq, beq_iff_eq, UInt32.le_iff_toNat_le, ge_iff_le,
    Char.reduceVal, UInt32.reduceToNat] at continues
  rcases continues with ((upper | lower) | digit) | rfl
  · omega
  · omega
  · omega
  · decide

/-- Characters of names are characters of words. -/
theorem isWord_of_continuesName {c : Char} (continues : continuesName Char.isAlpha c = true) :
    Text.isWord c = true :=
  forall_ascii (P := fun c => continuesName Char.isAlpha c = true → Text.isWord c = true)
    (by decide +kernel) (lt_of_continuesName continues) continues

theorem isBlank_of_continuesName {c : Char} (continues : continuesName Char.isAlpha c = true) :
    Text.isBlank c = false :=
  forall_ascii (P := fun c => continuesName Char.isAlpha c = true → Text.isBlank c = false)
    (by decide +kernel) (lt_of_continuesName continues) continues

/-- A blank ends names, also those with letters in any case. -/
theorem continuesName_of_isBlank {c : Char} (blank : Text.isBlank c = true) :
    continuesName isLetterInAnyCase c = false := by
  by_contra continues
  rw [Bool.not_eq_false, continuesName, isLetterInAnyCase] at continues
  have further : continuesName Char.isAlpha c = true ∨ c = '\u017F' ∨ c = '\u212A' := by
    simpa [continuesName, or_assoc, or_left_comm, or_comm] using continues
  rcases further with ascii | rfl | rfl
  · rw [isBlank_of_continuesName ascii] at blank
    cases blank
  all_goals cases blank

theorem IsName.inAnyCase {name : List Char} (isName : IsName Char.isAlpha name) :
    IsName isLetterInAnyCase name := by
  have wider : ∀ {c : Char}, c.isAlpha = true → isLetterInAnyCase c = true := by
    intro c letter
    rw [isLetterInAnyCase, letter]
    rfl
  obtain ⟨c, first, starts⟩ := isName.starts
  rw [startsName, Bool.or_eq_true] at starts
  constructor
  · refine ⟨c, first, ?_⟩
    rw [startsName, Bool.or_eq_true]
    exact starts.imp_left wider
  · intro other among
    have continues := isName.continues other among
    rw [continuesName, Bool.or_eq_true, Bool.or_eq_true] at continues ⊢
    exact continues.imp_left (.imp_left wider)

/-- The paths of placeholders are paths of clauses as well. -/
theorem Path.IsNamed.inAnyCase {path : Path} (named : path.IsNamed Char.isAlpha) :
    path.IsNamed isLetterInAnyCase := by
  constructor
  · exact named.name.inAnyCase
  · exact fun property among => (named.property property among).inAnyCase

/-- Lowercase is a matter of letters. -/
theorem isAlpha_of_toLower {c : Char} (lower : c.toLower.isAlpha = true) : c.isAlpha = true := by
  have letter : c.isAlpha = (c.isUpper || c.isLower) := rfl
  by_cases upper : c.isUpper = true
  · rw [letter, upper, Bool.true_or]
  · have same : c.toLower = c := dif_neg fun inside => upper (decide_eq_true inside)
    rwa [same] at lower

/-! ## Spellings -/

/-- Text of blanks only. -/
def Blanks (text : List Char) : Prop :=
  ∀ c ∈ text, Text.isBlank c = true

theorem blanks_of_all {text : List Char} (blank : text.all Text.isBlank = true) : Blanks text :=
  List.all_eq_true.mp blank

/-- The text is the lowercase word, in any case. -/
def Spells (word text : List Char) : Prop :=
  text.map Char.toLower = word

/-- The word `NOT` and the blanks after it, of which there are some. -/
def IsNot (text : List Char) : Prop :=
  ∃ word blanks, Spells ['n', 'o', 't'] word ∧ Blanks blanks ∧ blanks ≠ [] ∧
    text = word ++ blanks

/-- What stands before the parenthesis of a clause: `IN` and any blanks after it, or `NOT` before
that. -/
inductive Lead : Bool → List Char → Prop where
  | membership {word blanks : List Char} (spells : Spells ['i', 'n'] word)
      (blank : Blanks blanks) : Lead false (word ++ blanks)
  | negation {front lead : List Char} (isNot : IsNot front) (following : Lead false lead) :
      Lead true (front ++ lead)

/-- A path in parentheses, with a colon before it. -/
def Enclosed (path : Path) (text : List Char) : Prop :=
  ∃ opening closing, Blanks opening ∧ Blanks closing ∧
    text = '(' :: (opening ++ ':' :: (path.chars ++ (closing ++ [')'])))

/-- A clause about a path, spelled in any way. -/
def Spelled (negated : Bool) (path : Path) (text : List Char) : Prop :=
  ∃ lead enclosed, Lead negated lead ∧ Enclosed path enclosed ∧ text = lead ++ enclosed

theorem Spells.exists_cons {first : Char} {word text : List Char}
    (spells : Spells (first :: word) text) : ∃ c tail, text = c :: tail ∧ c.toLower = first := by
  cases text with
  | nil => cases spells
  | cons c tail => exact ⟨c, tail, rfl, (List.cons.inj spells).1⟩

/-- A lead begins with the first letter of its first word. -/
theorem Lead.exists_cons {negated : Bool} {lead : List Char} (isLead : Lead negated lead) :
    ∃ c tail, lead = c :: tail ∧ c.toLower = if negated then 'n' else 'i' := by
  cases isLead with
  | membership spells _ =>
      obtain ⟨c, tail, rfl, lower⟩ := spells.exists_cons
      exact ⟨c, _, rfl, lower⟩
  | negation isNot _ =>
      obtain ⟨_, _, spells, _, _, rfl⟩ := isNot
      obtain ⟨c, tail, rfl, lower⟩ := spells.exists_cons
      exact ⟨c, _, rfl, lower⟩

theorem Lead.exists_negation {text : List Char} (isLead : Lead true text) :
    ∃ front lead, IsNot front ∧ Lead false lead ∧ text = front ++ lead := by
  cases isLead with
  | negation isNot following => exact ⟨_, _, isNot, following, rfl⟩

/-- A character is not blank if it is a letter in lowercase. -/
theorem isBlank_of_toLower {c : Char} (lower : c.toLower.isAlpha = true) :
    Text.isBlank c = false := by
  apply isBlank_of_continuesName
  rw [continuesName, isAlpha_of_toLower lower, Bool.true_or, Bool.true_or]

/-! ## Readers -/

section Readers

variable {text rest : List Char} {path : Path}

theorem takeWord?_eq_some_iff {word : List Char} :
    takeWord? word text = some rest ↔ ∃ letters, Spells word letters ∧ text = letters ++ rest := by
  fun_induction takeWord? word text with
  | case1 text => simp [Spells, eq_comm]
  | case2 letter word =>
      constructor
      · intro absent
        cases absent
      · rintro ⟨letters, spells, whole⟩
        obtain ⟨rfl, -⟩ := List.append_eq_nil_iff.mp whole.symm
        cases spells
  | case3 word c text inductionHypothesis =>
      rw [inductionHypothesis]
      constructor
      · rintro ⟨letters, spells, rfl⟩
        exact ⟨c :: letters, congrArg (c.toLower :: ·) spells, rfl⟩
      · rintro ⟨letters, spells, whole⟩
        cases letters with
        | nil => cases spells
        | cons first letters =>
            cases whole
            exact ⟨letters, (List.cons.inj spells).2, rfl⟩
  | case4 letter word c text different =>
      constructor
      · intro absent
        cases absent
      · rintro ⟨letters, spells, whole⟩
        cases letters with
        | nil => cases spells
        | cons first letters =>
            cases whole
            exact (different (List.cons.inj spells).1).elim

theorem exists_blanks (text : List Char) :
    ∃ blanks, Blanks blanks ∧ text = blanks ++ Text.trimStart text :=
  ⟨text.takeWhile Text.isBlank, fun _ taken => List.mem_takeWhile_imp taken,
    List.takeWhile_append_dropWhile.symm⟩

theorem trimStart_append {blanks : List Char} (blank : Blanks blanks)
    (visible : ∀ c ∈ rest.head?, Text.isBlank c = false) :
    Text.trimStart (blanks ++ rest) = rest :=
  (Text.span_append blank visible).2

theorem takeChar?_trimStart_eq_some_iff {c : Char} (visible : Text.isBlank c = false) :
    Text.takeChar? c (Text.trimStart text) = some rest ↔
      ∃ blanks, Blanks blanks ∧ text = blanks ++ c :: rest := by
  constructor
  · intro taken
    obtain ⟨blanks, blank, whole⟩ := exists_blanks text
    cases trimmed : Text.trimStart text with
    | nil =>
        rw [trimmed] at taken
        cases taken
    | cons first tail =>
        rw [trimmed, Text.takeChar?] at taken
        split at taken
        · next same =>
          cases taken
          exact ⟨blanks, blank, by rw [← same, ← trimmed, ← whole]⟩
        · cases taken
  · rintro ⟨blanks, blank, rfl⟩
    rw [trimStart_append blank (by rintro _ ⟨⟩; exact visible), Text.takeChar?, if_pos rfl]

theorem takeNot?_eq_some_iff :
    takeNot? text = some rest ↔ ∃ front, IsNot front ∧
      (∀ c ∈ rest.head?, Text.isBlank c = false) ∧ text = front ++ rest := by
  constructor
  · intro taken
    rw [takeNot?] at taken
    split at taken
    · next c tail found =>
      split at taken
      · next blank =>
        cases taken
        obtain ⟨word, spells, rfl⟩ := takeWord?_eq_some_iff.mp found
        obtain ⟨blanks, allBlank, whole⟩ := exists_blanks tail
        have isNot : IsNot (word ++ c :: blanks) :=
          ⟨word, c :: blanks, spells, List.forall_mem_cons.mpr ⟨blank, allBlank⟩,
            List.cons_ne_nil _ _, rfl⟩
        refine ⟨_, isNot, ?_, by rw [List.append_assoc, List.cons_append, ← whole]⟩
        intro other first
        have stops := List.head?_dropWhile_not Text.isBlank tail
        rw [← Text.trimStart, Option.mem_def.mp first] at stops
        simpa using stops
      · cases taken
    · cases taken
  · rintro ⟨_, ⟨word, blanks, spells, blank, separated, rfl⟩, visible, rfl⟩
    obtain ⟨c, blanks, rfl⟩ := List.exists_cons_of_ne_nil separated
    obtain ⟨first, others⟩ := List.forall_mem_cons.mp blank
    have found : takeWord? ['n', 'o', 't'] (word ++ c :: blanks ++ rest) =
        some (c :: (blanks ++ rest)) :=
      takeWord?_eq_some_iff.mpr ⟨word, spells, List.append_assoc _ _ _⟩
    rw [takeNot?, found]
    simp only [if_pos first, trimStart_append others visible]

/-- A path ends before any blanks and a parenthesis. -/
theorem Path.ends_close (path : Path) {closing : List Char} (blank : Blanks closing)
    (rest : List Char) : path.Ends isLetterInAnyCase (closing ++ ')' :: rest) := by
  cases closing with
  | nil => exact ⟨by rintro _ ⟨⟩; rfl, by rintro - _ ⟨⟩⟩
  | cons c closing =>
      have first := blank c List.mem_cons_self
      constructor
      · rintro _ ⟨⟩
        exact continuesName_of_isBlank first
      · rintro - _ ⟨⟩
        cases first

theorem takeMembership?_eq_some_iff :
    takeMembership? text = some (path, rest) ↔
      path.IsNamed isLetterInAnyCase ∧ ∃ spelled, Spelled false path spelled ∧
        text = spelled ++ rest := by
  simp only [takeMembership?, Option.bind_eq_bind, Option.bind_eq_some_iff, Option.some.injEq,
    Prod.mk.injEq]
  constructor
  · rintro ⟨afterWord, word, afterOpen, opened, afterColon, colon, ⟨found, afterPath⟩, taken,
      afterClose, closed, rfl, rfl⟩
    obtain ⟨named, -, rfl⟩ := (Path.take?_eq_some_iff letters_isLetterInAnyCase).mp taken
    obtain ⟨letters, spells, rfl⟩ := takeWord?_eq_some_iff.mp word
    obtain ⟨blanks, blank, rfl⟩ := (takeChar?_trimStart_eq_some_iff rfl).mp opened
    obtain ⟨opening, blankOpening, rfl⟩ := (takeChar?_trimStart_eq_some_iff rfl).mp colon
    obtain ⟨closing, blankClosing, whole⟩ := (takeChar?_trimStart_eq_some_iff rfl).mp closed
    refine ⟨named, _, ⟨_, _, .membership spells blank,
      ⟨opening, closing, blankOpening, blankClosing, rfl⟩, rfl⟩, ?_⟩
    simp only at whole
    simp only [whole, List.append_assoc, List.cons_append, List.nil_append]
  · rintro ⟨named, _, ⟨_, _, lead, ⟨opening, closing, blankOpening, blankClosing, rfl⟩, rfl⟩, rfl⟩
    cases lead with
    | @membership word blanks spells blank =>
        have ends := path.ends_close blankClosing rest
        refine ⟨_, takeWord?_eq_some_iff.mpr ⟨word, spells, ?_⟩,
          _, (takeChar?_trimStart_eq_some_iff rfl).mpr ⟨blanks, blank, rfl⟩,
          _, (takeChar?_trimStart_eq_some_iff rfl).mpr ⟨opening, blankOpening, rfl⟩,
          (path, closing ++ ')' :: rest),
          (Path.take?_eq_some_iff letters_isLetterInAnyCase).mpr ⟨named, ends, rfl⟩,
          _, (takeChar?_trimStart_eq_some_iff rfl).mpr ⟨closing, blankClosing, rfl⟩, rfl, rfl⟩
        simp only [List.append_assoc, List.cons_append, List.nil_append]

/-- No negation is read where a clause without one begins. -/
theorem Lead.takeNot?_eq_none {lead : List Char} (isLead : Lead false lead) (rest : List Char) :
    takeNot? (lead ++ rest) = none := by
  rw [Option.eq_none_iff_forall_ne_some]
  intro start taken
  obtain ⟨_, ⟨_, _, spells, _, _, rfl⟩, _, whole⟩ := takeNot?_eq_some_iff.mp taken
  obtain ⟨c, _, rfl, lowerI⟩ := isLead.exists_cons
  obtain ⟨d, _, rfl, lowerN⟩ := spells.exists_cons
  obtain rfl : c = d := (List.cons.inj whole).1
  rw [lowerN] at lowerI
  cases lowerI

/-- The negation of a clause is read up to where the clause without it begins. -/
theorem Lead.takeNot?_eq_some {front lead : List Char} (isNot : IsNot front)
    (isLead : Lead false lead) (rest : List Char) :
    takeNot? (front ++ (lead ++ rest)) = some (lead ++ rest) := by
  refine takeNot?_eq_some_iff.mpr ⟨front, isNot, ?_, rfl⟩
  obtain ⟨c, tail, rfl, lower⟩ := isLead.exists_cons
  rintro _ ⟨⟩
  exact isBlank_of_toLower (by rw [lower]; rfl)

/-- What is left out at the end of a text is the rest of it. -/
theorem take_length_sub {first rest : List Char} :
    (first ++ rest).take ((first ++ rest).length - rest.length) = first := by
  rw [List.length_append, Nat.add_sub_cancel, List.take_left]

/-- A clause is read from its spelling. -/
theorem InClause.take?_spelled {negated : Bool} {written : List Char}
    (named : path.IsNamed isLetterInAnyCase) (spelled : Spelled negated path written)
    (rest : List Char) :
    InClause.take? (written ++ rest) = some (⟨negated, path, written⟩, rest) := by
  obtain ⟨lead, enclosed, isLead, isEnclosed, rfl⟩ := spelled
  have membership : ∀ {lead}, Lead false lead →
      takeMembership? (lead ++ enclosed ++ rest) = some (path, rest) := fun following =>
    takeMembership?_eq_some_iff.mpr ⟨named, _, ⟨_, _, following, isEnclosed, rfl⟩, rfl⟩
  cases negated with
  | false =>
      have unnegated := isLead.takeNot?_eq_none (enclosed ++ rest)
      rw [← List.append_assoc] at unnegated
      simp only [take?, unnegated, Option.getD_none, membership isLead, Option.bind_eq_bind,
        Option.bind_some, Option.isSome_none, take_length_sub]
  | true =>
      obtain ⟨front, inner, isNot, following, rfl⟩ := isLead.exists_negation
      have negated := Lead.takeNot?_eq_some isNot following (enclosed ++ rest)
      rw [← List.append_assoc, ← List.append_assoc, ← List.append_assoc] at negated
      simp only [take?, negated, Option.getD_some, membership following, Option.bind_eq_bind,
        Option.bind_some, Option.isSome_some, take_length_sub]

/-- A clause is read exactly if the text starts with a spelling of it. -/
theorem InClause.take?_eq_some_iff {clause : InClause} :
    InClause.take? text = some (clause, rest) ↔
      clause.path.IsNamed isLetterInAnyCase ∧
        Spelled clause.negated clause.path clause.written ∧ text = clause.written ++ rest := by
  constructor
  · simp only [InClause.take?, Option.bind_eq_bind, Option.bind_eq_some_iff, Option.some.injEq,
      Prod.mk.injEq]
    rintro ⟨⟨path, following⟩, membership, rfl, rfl⟩
    obtain ⟨named, spelled, isSpelled, whole⟩ := takeMembership?_eq_some_iff.mp membership
    cases negated : takeNot? text with
    | none =>
        rw [negated, Option.getD_none] at whole
        subst whole
        rw [take_length_sub]
        exact ⟨named, isSpelled, rfl⟩
    | some start =>
        obtain ⟨front, isNot, -, rfl⟩ := takeNot?_eq_some_iff.mp negated
        rw [negated, Option.getD_some] at whole
        subst whole
        obtain ⟨lead, enclosed, isLead, isEnclosed, rfl⟩ := isSpelled
        rw [← List.append_assoc, take_length_sub]
        exact ⟨named, ⟨_, _, .negation isNot isLead, isEnclosed, (List.append_assoc _ _ _).symm⟩,
          rfl⟩
  · rintro ⟨named, isSpelled, rfl⟩
    exact take?_spelled named isSpelled rest

end Readers

end NamedSql.Sql
