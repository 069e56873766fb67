/-!
# Quotations in SQL text

A single or double quote opens a quotation, which the next quote of the same
kind closes.  Every scanner of SQL text tells by this one rule what is quoted:
the state after a text depends on its characters alone.
-/

namespace NamedSql.Sql

/-- Whether a character opens a quotation. -/
def isQuote (c : Char) : Bool :=
  c == '\x27' || c == '\x22'

/-- Where a point of SQL text stands. -/
inductive Quotation where
  | outside
  /-- Within a quotation which the given character closes. -/
  | inside (quote : Char)
deriving DecidableEq

namespace Quotation

/-- The state after one more character. -/
def step : Quotation → Char → Quotation
  | .outside, c => if isQuote c then .inside c else .outside
  | .inside quote, c => if c = quote then .outside else .inside quote

/-- The state after more text. -/
def after (state : Quotation) (text : List Char) : Quotation :=
  text.foldl step state

@[simp]
theorem after_nil (state : Quotation) : state.after [] = state :=
  rfl

@[simp]
theorem after_cons (state : Quotation) (c : Char) (text : List Char) :
    state.after (c :: text) = (state.step c).after text :=
  rfl

theorem after_append (state : Quotation) (first second : List Char) :
    state.after (first ++ second) = (state.after first).after second :=
  List.foldl_append

/-- Whether text has a question mark outside quotations, from a state on. -/
def hasUnnamed : Quotation → List Char → Bool
  | _, [] => false
  | state, c :: rest => (state == .outside && c == '?') || hasUnnamed (state.step c) rest

end Quotation

end NamedSql.Sql
