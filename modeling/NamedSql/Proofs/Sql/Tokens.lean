import NamedSql.Proofs.Sql.Pieces
import Mathlib.Data.List.Chain

/-!
# Where placeholders stand

A placeholder stands exactly where an unquoted colon, which no colon of its run is paired with,
has a name after it, and it is as long as it can be.  What is between placeholders is joined, so
that tokens alternate between placeholders and nonempty text.
-/

namespace NamedSql.Sql

/-! ## Items of a text -/

/-- The item has its place among the others after the given text. -/
def StandsAfter {α : Type} (chars : α → List Char) (items : List α) (before : List Char)
    (item : α) : Prop :=
  ∃ earlier later, items = earlier ++ item :: later ∧ earlier.flatMap chars = before

section Items

variable {α : Type} {chars : α → List Char} {first item : α} {rest : List α}
  {before : List Char}

theorem not_standsAfter_nil : ¬StandsAfter chars [] before item := by
  rintro ⟨earlier, later, whole, -⟩
  simp at whole

theorem standsAfter_cons_iff :
    StandsAfter chars (first :: rest) before item ↔
      before = [] ∧ first = item ∨
        ∃ following, before = chars first ++ following ∧ StandsAfter chars rest following item := by
  constructor
  · rintro ⟨earlier, later, whole, rfl⟩
    cases earlier with
    | nil => exact .inl ⟨rfl, (List.cons.inj whole).1⟩
    | cons head earlier =>
        obtain ⟨rfl, remaining⟩ := List.cons.inj whole
        exact .inr ⟨_, List.flatMap_cons, earlier, later, remaining, rfl⟩
  · rintro (⟨rfl, rfl⟩ | ⟨_, rfl, earlier, later, rfl, rfl⟩)
    · exact ⟨[], rest, rfl, rfl⟩
    · exact ⟨first :: earlier, later, rfl, List.flatMap_cons⟩

end Items

/-! ## Tokens of pieces -/

section Tokens

variable {path : Path} {before : List Char} {c : Char} {tokens : List Token}

/-- Tokens are written as their pieces. -/
theorem Token.flatMap_chars_ofPieces (pieces : List Piece) :
    (ofPieces pieces).flatMap chars = writtenPieces pieces := by
  induction pieces with
  | nil => rfl
  | cons piece rest inductionHypothesis =>
      rw [ofPieces_cons, writtenPieces_cons, ← inductionHypothesis]
      cases piece with
      | placeholder path => rfl
      | char c =>
          cases ofPieces rest with
          | nil => rfl
          | cons token tokens => cases token <;> rfl

/-- Whether a token is plain text. -/
def Token.isText : Token → Bool
  | .text _ => true
  | .placeholder _ => false

/-- Tokens of which no text is empty and no two texts are neighbours. -/
structure Token.Alternate (tokens : List Token) : Prop where
  nonempty : .text [] ∉ tokens
  apart : tokens.IsChain fun first second => ¬(first.isText = true ∧ second.isText = true)

theorem Token.alternate_ofPieces (pieces : List Piece) : Alternate (ofPieces pieces) := by
  induction pieces with
  | nil => exact ⟨List.not_mem_nil, .nil⟩
  | cons piece rest inductionHypothesis =>
      obtain ⟨nonempty, apart⟩ := inductionHypothesis
      rw [ofPieces_cons]
      cases piece with
      | placeholder path =>
          constructor
          · simpa [cons] using nonempty
          · exact apart.cons fun token _ both => nomatch both.1
      | char c =>
          cases following : ofPieces rest with
          | nil => exact ⟨by simp [cons], .singleton _⟩
          | cons token tokens =>
              rw [following] at nonempty apart
              cases token with
              | placeholder path =>
                  constructor
                  · simpa [cons] using nonempty
                  · exact apart.cons fun token first both => by
                      cases first
                      exact nomatch both.2
              | text chars =>
                  constructor
                  · simp only [cons, List.mem_cons, not_or] at nonempty ⊢
                    exact ⟨nofun, nonempty.2⟩
                  · exact apart.imp_head fun noPair both => noPair ⟨rfl, both.2⟩

/-- Plain text before a placeholder is passed over character by character. -/
theorem Token.standsAfter_cons_char :
    StandsAfter chars (cons (.char c) tokens) before (.placeholder path) ↔
      ∃ following, before = c :: following ∧
        StandsAfter chars tokens following (.placeholder path) := by
  match tokens with
  | [] => simp [cons, standsAfter_cons_iff, not_standsAfter_nil]
  | .placeholder _ :: _ => simp [cons, standsAfter_cons_iff, chars]
  | .text _ :: _ => simp [cons, standsAfter_cons_iff, chars]

/-- Placeholders stand among tokens where they stand among the pieces. -/
theorem Token.standsAfter_ofPieces {pieces : List Piece} :
    StandsAfter chars (ofPieces pieces) before (.placeholder path) ↔
      StandsAfter Piece.chars pieces before (.placeholder path) := by
  induction pieces generalizing before with
  | nil => exact iff_of_false not_standsAfter_nil not_standsAfter_nil
  | cons piece rest inductionHypothesis =>
      rw [ofPieces_cons, standsAfter_cons_iff]
      cases piece with
      | char c =>
          rw [standsAfter_cons_char]
          simp [inductionHypothesis, Piece.chars]
      | placeholder other =>
          rw [cons, standsAfter_cons_iff]
          simp [inductionHypothesis, Piece.chars, chars]

end Tokens

/-! ## Colons which start placeholders -/

/-- The number of colons which text ends with, after earlier ones. -/
def colonsAfter (count : Nat) (text : List Char) : Nat :=
  text.foldl (fun count c => if c = ':' then count + 1 else 0) count

/-- The colon between the texts is one of a pair: colons in a row are paired from the left. -/
def Paired (before after : List Char) : Prop :=
  colonsAfter 0 before % 2 = 1 ∨ after.head? = some ':'

/-- Text has a colon with a path after it, neither quoted nor the second one of a pair, after
the text before. -/
def StartsPath (state : Quotation) (count : Nat) (text before : List Char) (path : Path) : Prop :=
  ∃ after, text = before ++ ':' :: after ∧ state.after before = .outside ∧
    colonsAfter count before % 2 = 0 ∧ ∃ rest, Path.take? Char.isAlpha after = some (path, rest)

section Starts

variable {state : Quotation} {count : Nat} {c : Char} {text rest before : List Char} {path : Path}

@[simp]
theorem colonsAfter_cons :
    colonsAfter count (c :: text) = colonsAfter (if c = ':' then count + 1 else 0) text :=
  rfl

theorem colonsAfter_neutral (nonempty : text ≠ []) (neutral : Quotation.Neutral text) :
    colonsAfter count text = 0 := by
  induction text generalizing count with
  | nil => exact absurd rfl nonempty
  | cons c text inductionHypothesis =>
      rw [colonsAfter_cons, if_neg neutral.head_ne_colon]
      cases text with
      | nil => rfl
      | cons next text => exact inductionHypothesis (List.cons_ne_nil next text) neutral.tail

theorem startsPath_cons_iff :
    StartsPath state count (c :: rest) before path ↔
      (before = [] ∧ c = ':' ∧ state = .outside ∧ count % 2 = 0 ∧
        ∃ following, Path.take? Char.isAlpha rest = some (path, following)) ∨
      ∃ following, before = c :: following ∧
        StartsPath (state.step c) (if c = ':' then count + 1 else 0) rest following path := by
  constructor
  · rintro ⟨after, whole, outside, even, taken⟩
    cases before with
    | nil =>
        obtain ⟨rfl, rfl⟩ := List.cons.inj whole
        exact .inl ⟨rfl, rfl, outside, even, taken⟩
    | cons first before =>
        obtain ⟨rfl, rfl⟩ := List.cons.inj whole
        exact .inr ⟨before, rfl, after, rfl, outside, even, taken⟩
  · rintro (⟨rfl, rfl, outside, even, taken⟩ | ⟨_, rfl, after, rfl, outside, even, taken⟩)
    · exact ⟨rest, rfl, outside, even, taken⟩
    · exact ⟨after, rfl, outside, even, taken⟩

theorem startsPath_append_iff (neutral : Quotation.Neutral text) :
    StartsPath .outside count (text ++ rest) before path ↔
      ∃ following, before = text ++ following ∧
        StartsPath .outside (colonsAfter count text) rest following path := by
  induction text generalizing count before with
  | nil => simp [colonsAfter]
  | cons c text inductionHypothesis =>
      have noColon := neutral.head_ne_colon
      have unquoted := Quotation.Plain.step (neutral.plain c List.mem_cons_self)
      rw [List.cons_append, startsPath_cons_iff, unquoted]
      simp only [noColon, false_and, and_false, false_or, inductionHypothesis neutral.tail]
      simp [noColon]

theorem not_startsPath_nil : ¬StartsPath state count [] before path := by
  rintro ⟨after, whole, -⟩
  simp at whole

/-- Earlier colons do not matter to text which does not begin with one. -/
theorem startsPath_count_congr (noColon : ∀ tail, text = ':' :: tail → False) (other : Nat) :
    StartsPath state count text before path ↔ StartsPath state other text before path := by
  cases text with
  | nil => exact iff_of_false not_startsPath_nil not_startsPath_nil
  | cons c rest =>
      have different : c ≠ ':' := by
        rintro rfl
        exact noColon rest rfl
      rw [startsPath_cons_iff, startsPath_cons_iff]
      simp only [different, false_and, and_false, if_false]

/-- Placeholders stand exactly where unpaired colons outside quotations have paths after
them. -/
theorem standsAfter_pieces_iff (proper : state.Proper) (even : state = .outside → count % 2 = 0) :
    StandsAfter Piece.chars (pieces state text) before (.placeholder path) ↔
      StartsPath state count text before path := by
  fun_induction pieces state text generalizing count before with
  | case1 state => exact iff_of_false not_standsAfter_nil not_startsPath_nil
  | case2 rest inductionHypothesis =>
      have evenAfter : (count + 1 + 1) % 2 = 0 := by
        have := even rfl
        omega
      have oddBetween : (count + 1) % 2 ≠ 0 := by
        have := even rfl
        omega
      have noPath : Path.take? Char.isAlpha (':' :: rest) = none :=
        Path.take?_eq_none_iff.mpr (by rintro _ ⟨⟩; rfl)
      have later (following : List Char) :
          StandsAfter Piece.chars (pieces .outside rest) following (.placeholder path) ↔
            StartsPath .outside (count + 1 + 1) rest following path :=
        inductionHypothesis proper fun _ => evenAfter
      simp [standsAfter_cons_iff, startsPath_cons_iff, later, noPath, oddBetween, Piece.chars,
        Quotation.step, isQuote]
  | case3 rest _ other remaining taken _ inductionHypothesis =>
      obtain ⟨named, -, rfl⟩ := (Path.take?_eq_some_iff letters_isAlpha).mp taken
      have neutral := named.neutral letters_isAlpha
      have nonempty : other.chars ≠ [] :=
        fun empty => named.ends_false (by rw [empty]; rintro _ ⟨⟩)
      have later (following : List Char) :
          StandsAfter Piece.chars (pieces .outside remaining) following (.placeholder path) ↔
            StartsPath .outside 0 remaining following path :=
        inductionHypothesis proper fun _ => rfl
      have unquoted : Quotation.outside.step ':' = .outside := rfl
      rw [standsAfter_cons_iff, startsPath_cons_iff, taken, unquoted]
      simp [startsPath_append_iff neutral, colonsAfter_neutral nonempty neutral, later, even,
        Piece.chars]
  | case4 rest noCast absent inductionHypothesis =>
      have later (following : List Char) :
          StandsAfter Piece.chars (pieces .outside rest) following (.placeholder path) ↔
            StartsPath .outside (count + 1) rest following path :=
        (inductionHypothesis proper fun _ => rfl).trans (startsPath_count_congr noCast 0).symm
      simp [standsAfter_cons_iff, startsPath_cons_iff, later, absent, Piece.chars,
        Quotation.step, isQuote]
  | case5 state c rest _ plain inductionHypothesis =>
      have evenAfter : state.step c = .outside → (if c = ':' then count + 1 else 0) % 2 = 0 := by
        intro outside
        rw [if_neg]
        rintro rfl
        have unquoted : Quotation.Plain [':'] := List.forall_mem_singleton.mpr rfl
        exact plain ((unquoted.after_eq proper).symm.trans outside) rfl
      have later (following : List Char) :
          StandsAfter Piece.chars (pieces (state.step c) rest) following (.placeholder path) ↔
            StartsPath (state.step c) (if c = ':' then count + 1 else 0) rest following path :=
        inductionHypothesis (proper.step c) evenAfter
      rw [standsAfter_cons_iff, startsPath_cons_iff, or_iff_right, or_iff_right]
      · simp only [later]
        rfl
      · rintro ⟨-, isColon, outside, -⟩
        exact plain outside isColon
      · rintro ⟨-, same⟩
        cases same

/-- The placeholders of SQL text stand exactly where unpaired colons outside quotations have
paths after them. -/
theorem standsAfter_tokenize_iff :
    StandsAfter Token.chars (tokenize text) before (.placeholder path) ↔
      ∃ after, text = before ++ ':' :: after ∧ Quotation.outside.after before = .outside ∧
        ¬Paired before after ∧ path.Longest Char.isAlpha after := by
  rw [tokenize, Token.standsAfter_ofPieces,
    standsAfter_pieces_iff Quotation.proper_outside fun _ => Nat.zero_mod 2]
  refine exists_congr fun after => and_congr_right fun _ => and_congr_right fun _ => ?_
  rw [Path.exists_take?_iff letters_isAlpha]
  refine and_congr_left fun longest => ?_
  have unpaired : after.head? ≠ some ':' := by
    obtain ⟨c, first, starts⟩ := (Path.exists_longest_iff letters_isAlpha).mp ⟨path, longest⟩
    rw [Option.mem_def.mp first]
    rintro ⟨⟩
    cases starts
  rw [Paired, or_iff_left unpaired]
  omega

-- Of three colons the first two are a pair.
example : tokenize [':', ':', ':', 'p'] = [.text [':', ':'], .placeholder ⟨"p", none⟩] := by
  decide +kernel

end Starts

end NamedSql.Sql
