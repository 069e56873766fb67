import NamedSql.Json.Basic
import NamedSql.Number.Decimal
import NamedSql.Text.Digits

/-!
# Lexemes of JSON text

Text is divided into punctuation, strings and other scalars.  A string must not
hold control characters, and has a value if every escaped surrogate is half of a
pair.  A number without point and exponent is an integer if it fits in 64 bits,
signed or unsigned; negative zero and all other numbers are doubles, and a
number too large for a double has no value.
-/

namespace NamedSql.Json

/-- A lexical element of JSON text. -/
inductive Lexeme where
  | openArray
  | closeArray
  | openObject
  | closeObject
  | comma
  | colon
  | string (value : Option String)
  | scalar (value : Option Json)

/-- Space, tab, line feed and carriage return separate lexemes. -/
def isSeparator (c : Char) : Bool :=
  c == ' ' || c == '\t' || c == '\n' || c == '\r'

/-- The punctuation which a character is. -/
def Lexeme.ofPunctuation? : Char → Option Lexeme
  | '[' => some .openArray
  | ']' => some .closeArray
  | '{' => some .openObject
  | '}' => some .closeObject
  | ',' => some .comma
  | ':' => some .colon
  | _ => none

/-- The character which a letter after a backslash stands for. -/
def escaped? : Char → Option Char
  | '\x22' => some '\x22'
  | '\\' => some '\\'
  | '/' => some '/'
  | 'b' => some '\x08'
  | 'f' => some '\x0c'
  | 'n' => some '\n'
  | 'r' => some '\r'
  | 't' => some '\t'
  | _ => none

/-- What stands between the quotes of a string, escapes included, and the text
after the closing quote. -/
def stringBody : List Char → Option (List Char × List Char)
  | [] => none
  | '\x22' :: rest => some ([], rest)
  | '\\' :: c :: rest => (stringBody rest).map fun (body, after) => ('\\' :: c :: body, after)
  | c :: rest => (stringBody rest).map fun (body, after) => (c :: body, after)

theorem length_lt_of_stringBody {text body after : List Char}
    (h : stringBody text = some (body, after)) : after.length < text.length := by
  fun_induction stringBody text generalizing body with
  | case1 => simp at h
  | case2 rest => simp_all
  | case3 c rest ih =>
    obtain ⟨⟨inner, remaining⟩, found, equal⟩ := Option.map_eq_some_iff.1 h
    simp only [Prod.mk.injEq] at equal
    have := ih (equal.2 ▸ found)
    simp only [List.length_cons]
    omega
  | case4 c rest _ _ ih =>
    obtain ⟨⟨inner, remaining⟩, found, equal⟩ := Option.map_eq_some_iff.1 h
    simp only [Prod.mk.injEq] at equal
    have := ih (equal.2 ▸ found)
    simp only [List.length_cons]
    omega

/-- Whether the body of a string has no control characters, and a complete
escape after every backslash. -/
def isBody : List Char → Bool
  | [] => true
  | '\\' :: 'u' :: a :: b :: c :: d :: rest =>
    (Text.hexValue? [a, b, c, d]).isSome && isBody rest
  | '\\' :: c :: rest => (escaped? c).isSome && isBody rest
  | c :: rest => decide (0x20 ≤ c.toNat) && isBody rest

/-- The characters which the body of a string denotes. -/
def unescape : List Char → Option (List Char)
  | [] => some []
  | '\\' :: 'u' :: a :: b :: c :: d :: rest => do
    let unit ← Text.hexValue? [a, b, c, d]
    if 0xD800 ≤ unit ∧ unit < 0xDC00 then
      match rest with
      | '\\' :: 'u' :: a :: b :: c :: d :: rest => do
        let low ← Text.hexValue? [a, b, c, d]
        if 0xDC00 ≤ low ∧ low < 0xE000 then
          let code := 0x10000 + (unit - 0xD800) * 0x400 + (low - 0xDC00)
          (Char.ofNat code :: ·) <$> unescape rest
        else none
      | _ => none
    else if 0xDC00 ≤ unit ∧ unit < 0xE000 then none
    else (Char.ofNat unit :: ·) <$> unescape rest
  | '\\' :: c :: rest => do
    let c ← escaped? c
    (c :: ·) <$> unescape rest
  | c :: rest => (c :: ·) <$> unescape rest

/-- The characters which numbers are made of. -/
def isNumeric (c : Char) : Bool :=
  c.isDigit || c == '-' || c == '+' || c == '.' || c == 'e' || c == 'E'

/-- A number as it is written. -/
structure Numeral where
  negative : Bool
  whole : List Char
  /-- The digits after a point. -/
  fraction : List Char
  /-- What stands after the mark of an exponent. -/
  exponent : Option Int

/-- A point and at least one digit after it: the digits, or none without a
point. -/
def fractionDigits? : List Char → Option (List Char × List Char)
  | '.' :: text =>
    let digits := text.takeWhile Char.isDigit
    if digits.isEmpty then none else some (digits, text.dropWhile Char.isDigit)
  | text => some ([], text)

/-- An exponent which ends the text, or no text at all. -/
def exponent? : List Char → Option (Option Int)
  | [] => some none
  | mark :: text =>
    let (negative, digits) :=
      match text with
      | '-' :: rest => (true, rest)
      | '+' :: rest => (false, rest)
      | _ => (false, text)
    if (mark = 'e' ∨ mark = 'E') ∧ ¬ digits.isEmpty ∧ digits.all Char.isDigit then
      some (some (if negative then -(Text.digitsValue digits : Int) else Text.digitsValue digits))
    else none

/-- The number which a whole lexeme is. -/
def Numeral.ofLexeme? (lexeme : List Char) : Option Numeral := do
  let (negative, text) :=
    match lexeme with
    | '-' :: rest => (true, rest)
    | _ => (false, lexeme)
  let whole := text.takeWhile Char.isDigit
  if whole.isEmpty ∨ (whole.head? = some '0' ∧ 1 < whole.length) then none
  else
    let (fraction, after) ← fractionDigits? (text.dropWhile Char.isDigit)
    let exponent ← exponent? after
    some ⟨negative, whole, fraction, exponent⟩

/-- An integer which fits in 64 bits, signed or unsigned, and is not a negative
zero. -/
def integer? (negative : Bool) (n : Nat) : Option Json :=
  if negative then
    if n ≠ 0 ∧ n ≤ 9223372036854775808 then some (.int (-n)) else none
  else if n < 18446744073709551616 then some (.int n) else none

/-- The document which a number denotes, unless it is too large. -/
def Numeral.value? (numeral : Numeral) : Option Json :=
  let double (exponent : Int) : Option Json :=
    let digits := Text.digitsValue (numeral.whole ++ numeral.fraction)
    let decimal : Decimal := ⟨numeral.negative, digits, exponent - numeral.fraction.length⟩
    decimal.toDouble?.map .double
  match numeral.fraction, numeral.exponent with
  | [], none =>
    (integer? numeral.negative (Text.digitsValue numeral.whole)).or (double 0)
  | _, exponent => double (exponent.getD 0)

/-- The document which a word denotes. -/
def word? (word : List Char) : Option Json :=
  if word = ['t', 'r', 'u', 'e'] then some (.bool true)
  else if word = ['f', 'a', 'l', 's', 'e'] then some (.bool false)
  else if word = ['n', 'u', 'l', 'l'] then some .null
  else none

/-- The characters which continue a number or word that starts with `c`. -/
def belongsWith (c : Char) : Char → Bool :=
  if isNumeric c then isNumeric else Char.isAlpha

theorem length_dropWhile_le (p : Char → Bool) (text : List Char) :
    (text.dropWhile p).length ≤ text.length :=
  (List.dropWhile_suffix p).length_le

/-- Divide text into lexemes, after those which were found before, the last of
them first. -/
def lexFrom (found : List Lexeme) (text : List Char) : Option (List Lexeme) :=
  match text with
  | [] => some found.reverse
  | c :: rest =>
    if isSeparator c then lexFrom found rest
    else
      match Lexeme.ofPunctuation? c with
      | some lexeme => lexFrom (lexeme :: found) rest
      | none =>
        if c = '\x22' then
          match h : stringBody rest with
          | none => none
          | some (body, after) =>
            have := length_lt_of_stringBody h
            if isBody body then
              lexFrom (.string ((unescape body).map String.ofList) :: found) after
            else none
        else
          have := length_dropWhile_le (belongsWith c) rest
          let lexeme := c :: rest.takeWhile (belongsWith c)
          match if isNumeric c then (Numeral.ofLexeme? lexeme).map Numeral.value?
            else (word? lexeme).map some with
          | none => none
          | some value => lexFrom (.scalar value :: found) (rest.dropWhile (belongsWith c))
termination_by text.length
decreasing_by all_goals simp_wf <;> omega

/-- Divide text into lexemes; `none` if some part of it is none. -/
def lex (text : List Char) : Option (List Lexeme) :=
  lexFrom [] text

end NamedSql.Json
