import NamedSql.Sql.Path
import NamedSql.Sql.Quotation

/-!
# Tokens of SQL text

SQL text is divided into plain text and placeholders.  A placeholder is a colon
outside quotations with a path after it.  Two colons in a row are a cast: they
are passed over together, so that a run of colons is taken in pairs from the
left.  Names in placeholders are ASCII.
-/

namespace NamedSql.Sql

/-- A character of plain text, or a placeholder. -/
inductive Piece where
  | char (c : Char)
  | placeholder (path : Path)
deriving DecidableEq

/-- The pieces of text, from a state on. -/
def pieces (state : Quotation) (text : List Char) : List Piece :=
  match state, text with
  | _, [] => []
  | .outside, ':' :: ':' :: rest => .char ':' :: .char ':' :: pieces .outside rest
  | .outside, ':' :: rest =>
    match h : Path.take? Char.isAlpha rest with
    | some (path, after) =>
      have := Path.length_lt_of_take? h
      .placeholder path :: pieces .outside after
    | none => .char ':' :: pieces .outside rest
  | state, c :: rest => .char c :: pieces (state.step c) rest
termination_by text.length

/-- A maximal stretch of plain text, or a placeholder. -/
inductive Token where
  | text (chars : List Char)
  | placeholder (path : Path)
deriving DecidableEq

/-- Put one piece before tokens, joining adjacent plain text. -/
def Token.cons : Piece → List Token → List Token
  | .char c, .text chars :: rest => .text (c :: chars) :: rest
  | .char c, tokens => .text [c] :: tokens
  | .placeholder path, tokens => .placeholder path :: tokens

/-- Join adjacent plain text. -/
def Token.ofPieces (pieces : List Piece) : List Token :=
  pieces.foldr Token.cons []

/-- Divide SQL text into tokens. -/
def tokenize (sql : List Char) : List Token :=
  Token.ofPieces (pieces .outside sql)

/-- A token as it is written. -/
def Token.chars : Token → List Char
  | .text chars => chars
  | .placeholder path => ':' :: path.chars

/-- The paths of the placeholders among tokens, in order. -/
def placeholders (tokens : List Token) : List Path :=
  tokens.filterMap fun
    | .text _ => none
    | .placeholder path => some path

end NamedSql.Sql
