import NamedSql.Text.LetterCase

/-!
# Spellings of names

Columns are spelled with underscores between words, properties often with
capitals instead.  Both conversions go character by character, by the Unicode
case mappings.
-/

namespace NamedSql.Rows

/-- Convert to capitals: `started` tells whether anything was written before,
and `capital` whether the next character starts a later word. -/
def camelFrom : (started capital : Bool) → List Char → List Char
  | _, _, [] => []
  | started, capital, c :: rest =>
    if c = '_' then camelFrom started started rest
    else (if capital then Text.toUpper c else Text.toLower c) ++ camelFrom true false rest

/-- The spelling with capitals instead of underscores. -/
def camelCase (name : String) : String :=
  String.ofList (camelFrom false false name.toList)

/-- Convert to underscores: `started` tells whether anything was written
before. -/
def snakeFrom : (started : Bool) → List Char → List Char
  | _, [] => []
  | started, c :: rest =>
    if Text.isUppercase c then
      (if started then ['_'] else []) ++ Text.toLower c ++ snakeFrom true rest
    else c :: snakeFrom true rest

/-- The spelling with underscores instead of capitals. -/
def snakeCase (name : String) : String :=
  String.ofList (snakeFrom false name.toList)

end NamedSql.Rows
