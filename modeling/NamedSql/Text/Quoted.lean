import NamedSql.Text.Printable

/-!
# Quoted display of text

Text is displayed between double quotes.  Quotes and backslashes are escaped
by a backslash, four controls have letters of their own, and any other
character which is not displayed as itself is written by its code point.
-/

namespace NamedSql.Text

/-- The code point in hexadecimal, in braces. -/
def escapeCode (c : Char) : List Char :=
  '\\' :: 'u' :: '\x7b' :: (Nat.toDigits 16 c.toNat ++ ['\x7d'])

/-- How one character is displayed within quotes. -/
def escape (c : Char) : List Char :=
  if c = '\x22' ∨ c = '\\' then ['\\', c]
  else if c = '\n' then ['\\', 'n']
  else if c = '\r' then ['\\', 'r']
  else if c = '\t' then ['\\', 't']
  else if c = '\x00' then ['\\', '0']
  else if isPrintable c then [c]
  else escapeCode c

/-- Text in double quotes. -/
def quoted (text : String) : String :=
  String.ofList ('\x22' :: (text.toList.flatMap escape ++ ['\x22']))

end NamedSql.Text
