/-!
# Digits

Reading and writing numbers of a limited count of digits within a text.
-/

namespace NamedSql.Text

/-- The number denoted by decimal digits. -/
def digitsValue (digits : List Char) : Nat :=
  digits.foldl (fun value c => 10 * value + (c.toNat - '0'.toNat)) 0

/-- Read at least `least` and at most `most` decimal digits: the digits and the
text after them. -/
def takeDigits? (least most : Nat) (text : List Char) : Option (List Char × List Char) :=
  let digits := (text.take most).takeWhile Char.isDigit
  if least ≤ digits.length then some (digits, text.drop digits.length) else none

/-- Read a number of at least `least` and at most `most` decimal digits. -/
def takeNumber? (least most : Nat) (text : List Char) : Option (Nat × List Char) :=
  (takeDigits? least most text).map fun (digits, rest) => (digitsValue digits, rest)

/-- Read one given character. -/
def takeChar? (c : Char) : List Char → Option (List Char)
  | [] => none
  | first :: rest => if first = c then some rest else none

/-- The value of a hexadecimal digit. -/
def hexDigit? (c : Char) : Option Nat :=
  if '0' ≤ c ∧ c ≤ '9' then some (c.toNat - '0'.toNat)
  else if 'a' ≤ c ∧ c ≤ 'f' then some (c.toNat - 'a'.toNat + 10)
  else if 'A' ≤ c ∧ c ≤ 'F' then some (c.toNat - 'A'.toNat + 10)
  else none

/-- The number denoted by hexadecimal digits; `none` if one of them is none. -/
def hexValue? (digits : List Char) : Option Nat :=
  digits.foldlM (fun value c => (hexDigit? c).map (16 * value + ·)) 0

/-- Digits of a number in a base, with leading zeros up to the given width. -/
def paddedDigits (base width n : Nat) : List Char :=
  let digits := Nat.toDigits base n
  List.replicate (width - digits.length) '0' ++ digits

end NamedSql.Text
