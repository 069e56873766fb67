import NamedSql.Proofs.Sql.Pieces
import NamedSql.Sql.Numbered

/-!
# Text laid out between its placeholders

The placeholders of a text are marks between stretches of plain text.  Writing the same
layout with positions or with numbers instead of paths gives the successive forms of a
statement: they share their plain text, and none of their marks quotes anything.
-/

namespace NamedSql.Sql

/-- The text before the first mark, and each mark with the text up to the next one. -/
structure Layout where
  start : List Char
  marks : List (Path × List Char)

namespace Layout

/-- Lay out tokens. -/
def ofTokens : List Token → Layout
  | [] => ⟨[], []⟩
  | .text chars :: rest => ⟨chars ++ (ofTokens rest).start, (ofTokens rest).marks⟩
  | .placeholder path :: rest => ⟨[], (path, (ofTokens rest).start) :: (ofTokens rest).marks⟩

/-- The marks are the placeholders in order. -/
theorem paths_ofTokens (tokens : List Token) :
    (ofTokens tokens).marks.map (·.1) = placeholders tokens := by
  induction tokens with
  | nil => rfl
  | cons token rest inductionHypothesis =>
      cases token with
      | text chars => exact inductionHypothesis
      | placeholder path => exact congrArg (path :: ·) inductionHypothesis

/-- Write marks and the texts after them, each mark as given for its position and path,
from a count of earlier ones on. -/
def writeMarks (mark : Nat → Path → List Char) : Nat → List (Path × List Char) → List Char
  | _, [] => []
  | count, (path, text) :: rest =>
    mark (count + 1) path ++ text ++ writeMarks mark (count + 1) rest

/-- Write a layout, from a count of earlier marks on. -/
def writeFrom (mark : Nat → Path → List Char) (count : Nat) (layout : Layout) : List Char :=
  layout.start ++ writeMarks mark count layout.marks

/-- Write a layout, with positions counted from 1. -/
def write (mark : Nat → Path → List Char) (layout : Layout) : List Char :=
  layout.writeFrom mark 0

/-- A mark as a placeholder. -/
def named (_ : Nat) (path : Path) : List Char :=
  ':' :: path.chars

/-- A mark as an unnamed position. -/
def unnamed (_ : Nat) (_ : Path) : List Char :=
  ['?']

/-- A mark as a number. -/
def numbered (position : Nat) (_ : Path) : List Char :=
  '$' :: Nat.toDigits 10 position

/-- The layout of pieces. -/
def ofPieces (pieces : List Piece) : Layout :=
  ofTokens (Token.ofPieces pieces)

theorem ofPieces_char (c : Char) (rest : List Piece) :
    ofPieces (.char c :: rest) = ⟨c :: (ofPieces rest).start, (ofPieces rest).marks⟩ := by
  rw [ofPieces, Token.ofPieces_cons, ofPieces]
  cases Token.ofPieces rest with
  | nil => rfl
  | cons token tokens => cases token <;> rfl

theorem ofPieces_placeholder (path : Path) (rest : List Piece) :
    ofPieces (.placeholder path :: rest) =
      ⟨[], (path, (ofPieces rest).start) :: (ofPieces rest).marks⟩ :=
  rfl

section Writing

variable (mark : Nat → Path → List Char) (count : Nat)

@[simp]
theorem writeFrom_nil : (ofPieces []).writeFrom mark count = [] :=
  rfl

@[simp]
theorem writeFrom_char (c : Char) (rest : List Piece) :
    (ofPieces (.char c :: rest)).writeFrom mark count =
      c :: (ofPieces rest).writeFrom mark count := by
  rw [ofPieces_char]
  rfl

@[simp]
theorem writeFrom_placeholder (path : Path) (rest : List Piece) :
    (ofPieces (.placeholder path :: rest)).writeFrom mark count =
      mark (count + 1) path ++ (ofPieces rest).writeFrom mark (count + 1) := by
  rw [ofPieces_placeholder, writeFrom, writeMarks, List.nil_append, List.append_assoc]
  rfl

/-- Plain text after pieces is written as it is. -/
theorem writeFrom_chars (pieces : List Piece) (text : List Char) :
    (ofPieces (pieces ++ text.map .char)).writeFrom mark count =
      (ofPieces pieces).writeFrom mark count ++ text := by
  induction pieces generalizing count with
  | nil =>
      rw [List.nil_append, writeFrom_nil, List.nil_append]
      induction text with
      | nil => rfl
      | cons c text inductionHypothesis =>
          rw [List.map_cons, writeFrom_char, inductionHypothesis]
  | cons piece pieces inductionHypothesis =>
      cases piece with
      | char c =>
          rw [List.cons_append, writeFrom_char, writeFrom_char, inductionHypothesis,
            List.cons_append]
      | placeholder path =>
          rw [List.cons_append, writeFrom_placeholder, writeFrom_placeholder, inductionHypothesis,
            List.append_assoc]

/-- With its paths, the layout is the text. -/
theorem writeFrom_named (pieces : List Piece) :
    (ofPieces pieces).writeFrom named count = writtenPieces pieces := by
  induction pieces generalizing count with
  | nil => rfl
  | cons piece rest inductionHypothesis =>
      cases piece with
      | char c =>
          rw [writeFrom_char, inductionHypothesis]
          rfl
      | placeholder path =>
          rw [writeFrom_placeholder, inductionHypothesis]
          rfl

end Writing

theorem plain_unnamed (position : Nat) (path : Path) : Quotation.Plain (unnamed position path) :=
  Quotation.Plain.cons rfl (fun _ among => nomatch among)

theorem plain_numbered (position : Nat) (path : Path) :
    Quotation.Plain (numbered position path) := by
  apply Quotation.Plain.cons rfl
  apply Quotation.Neutral.plain
  intro c among
  exact Quotation.isNeutral_of_isDigit
    (Nat.isDigit_of_mem_toDigits (by decide) (by decide) among)

end Layout

/-! ## What all forms of a statement share -/

namespace Divides

variable {state : Quotation} {text : List Char} {pieces : List Piece}

theorem placeholder_unnamed {path : Path} (named : path.IsNamed Char.isAlpha)
    (text : List Char) :
    Quotation.hasUnnamed .outside (':' :: (path.chars ++ text)) =
      Quotation.hasUnnamed .outside text := by
  have neutral := named.neutral letters_isAlpha
  rw [Quotation.hasUnnamed, Quotation.hasUnnamed_append, neutral.hasUnnamed]
  exact congrArg (Quotation.hasUnnamed · text) neutral.plain.after

/-- Without unnamed positions in the text, numbering its positions numbers its marks. -/
theorem numberFrom_eq (divides : Divides state text pieces)
    (allNamed : Quotation.hasUnnamed state text = false) (count : Nat) :
    numberFrom state count ((Layout.ofPieces pieces).writeFrom Layout.unnamed count) =
      (Layout.ofPieces pieces).writeFrom Layout.numbered count := by
  induction divides generalizing count with
  | nil => rfl
  | @char state c text pieces _ inductionHypothesis =>
      rw [Quotation.hasUnnamed, Bool.or_eq_false_iff] at allNamed
      have unmarked : ¬(state = .outside ∧ c = '?') := by
        rintro ⟨rfl, rfl⟩
        cases allNamed.1
      rw [Layout.writeFrom_char, Layout.writeFrom_char, numberFrom, if_neg unmarked,
        inductionHypothesis allNamed.2]
  | @placeholder path text pieces named _ _ inductionHypothesis =>
      rw [placeholder_unnamed named] at allNamed
      rw [Layout.writeFrom_placeholder, Layout.writeFrom_placeholder, Layout.unnamed,
        List.singleton_append, numberFrom, if_pos ⟨rfl, rfl⟩, inductionHypothesis allNamed]
      rfl

/-- Whatever its marks are, a layout has the quotations of the text. -/
theorem quotations_eq (divides : Divides state text pieces) {mark : Nat → Path → List Char}
    (plain : ∀ position path, Quotation.Plain (mark position path)) (count : Nat) :
    Quotation.quotations state ((Layout.ofPieces pieces).writeFrom mark count) =
      Quotation.quotations state text := by
  induction divides generalizing count with
  | nil => rfl
  | char _ inductionHypothesis =>
      rw [Layout.writeFrom_char]
      exact Quotation.quotations_cons_congr (inductionHypothesis count)
  | @placeholder path text pieces named _ _ inductionHypothesis =>
      have written : Quotation.Plain (':' :: path.chars) :=
        .cons rfl (named.neutral letters_isAlpha).plain
      rw [Layout.writeFrom_placeholder, (plain _ _).quotations_append, inductionHypothesis,
        ← List.cons_append, written.quotations_append]

/-- Without unnamed positions in the text, every position outside quotations is a mark. -/
theorem mark_of_unnamed (divides : Divides state text pieces)
    (allNamed : Quotation.hasUnnamed state text = false) (count : Nat) {before after : List Char}
    (found : (Layout.ofPieces pieces).writeFrom Layout.unnamed count = before ++ '?' :: after)
    (outside : state.after before = .outside) :
    ∃ earlier mark later, (Layout.ofPieces pieces).marks = earlier ++ mark :: later ∧
      before = Layout.writeFrom Layout.unnamed count ⟨(Layout.ofPieces pieces).start, earlier⟩ := by
  induction divides generalizing count before with
  | nil =>
      rw [Layout.writeFrom_nil] at found
      simp at found
  | @char state c text pieces _ inductionHypothesis =>
      rw [Quotation.hasUnnamed, Bool.or_eq_false_iff] at allNamed
      rw [Layout.writeFrom_char] at found
      rw [Layout.ofPieces_char]
      cases before with
      | nil =>
          cases found
          rw [Quotation.after_nil] at outside
          rw [outside] at allNamed
          cases allNamed.1
      | cons first before =>
          obtain ⟨rfl, foundLater⟩ := List.cons.inj found
          obtain ⟨earlier, mark, later, marked, rfl⟩ :=
            inductionHypothesis allNamed.2 count foundLater outside
          exact ⟨earlier, mark, later, marked, rfl⟩
  | @placeholder path text pieces named _ _ inductionHypothesis =>
      rw [placeholder_unnamed named] at allNamed
      rw [Layout.writeFrom_placeholder] at found
      cases before with
      | nil => exact ⟨[], _, _, rfl, rfl⟩
      | cons first before =>
          obtain ⟨rfl, foundLater⟩ := List.cons.inj found
          obtain ⟨earlier, mark, later, marked, rfl⟩ :=
            inductionHypothesis allNamed (count + 1) foundLater outside
          rw [Layout.ofPieces_placeholder, marked]
          exact ⟨_ :: earlier, mark, later, rfl, rfl⟩

/-- The text before the first mark starts the text. -/
theorem head?_start (divides : Divides state text pieces) :
    ∀ c ∈ (Layout.ofPieces pieces).start.head?, c ∈ text.head? := by
  cases divides with
  | nil => exact fun _ first => first
  | char _ =>
      rw [Layout.ofPieces_char]
      exact fun _ first => first
  | placeholder _ _ _ => exact fun _ first => nomatch first

/-- No placeholder goes on with the text after it. -/
theorem nameEnds_of_mem_marks (divides : Divides state text pieces) :
    ∀ mark ∈ (Layout.ofPieces pieces).marks, NameEnds Char.isAlpha mark.2 := by
  induction divides with
  | nil => exact fun _ among => nomatch among
  | char _ inductionHypothesis =>
      rw [Layout.ofPieces_char]
      exact inductionHypothesis
  | placeholder _ ends rest inductionHypothesis =>
      intro mark among
      rcases List.mem_cons.mp among with rfl | later
      · exact fun c first => ends.name c (rest.head?_start c first)
      · exact inductionHypothesis mark later

end Divides

end NamedSql.Sql
