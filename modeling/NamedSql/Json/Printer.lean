import NamedSql.Json.Basic
import NamedSql.Number.Decimal

/-!
# Compact JSON text

Documents are written without spaces.  A double is written with the fewest
digits which read back as it, in plain notation from `1e-5` up to `1e16` and
always with a fractional digit there, and else with an exponent.
-/

namespace NamedSql

/-- The decimal digits of a natural number. -/
def decimalDigits (n : Nat) : List Char :=
  Nat.toDigits 10 n

namespace Decimal

/-- Position of the decimal point, counted from the first digit. -/
def pointPosition (d : Decimal) : Int :=
  digitCount d.digits + d.exponent

/-- Plain notation with a digit on either side of the point. -/
def plainText (d : Decimal) : List Char :=
  let digits := decimalDigits d.digits
  if 0 < d.pointPosition then
    let whole := d.pointPosition.toNat
    let zeros := List.replicate (whole - digits.length) '0'
    let fraction := digits.drop whole
    digits.take whole ++ zeros ++ '.' :: (if fraction.isEmpty then ['0'] else fraction)
  else
    '0' :: '.' :: (List.replicate (-d.pointPosition).toNat '0' ++ digits)

/-- One digit before the point, and a signed exponent. -/
def scientificText (d : Decimal) : List Char :=
  let digits := decimalDigits d.digits
  let power := d.pointPosition - 1
  let fraction := digits.drop 1
  digits.take 1 ++ (if fraction.isEmpty then [] else '.' :: fraction) ++
    'e' :: (if power < 0 then '-' else '+') :: decimalDigits power.natAbs

/-- Plain notation for zero and from `1e-5` up to `1e16`, else scientific. -/
def text (d : Decimal) : List Char :=
  let absolute :=
    if d.digits = 0 then ['0', '.', '0']
    else if -5 < d.pointPosition ∧ d.pointPosition ≤ 16 then d.plainText
    else d.scientificText
  if d.negative then '-' :: absolute else absolute

end Decimal

namespace Json

/-- The text of a double. -/
def doubleText (x : Double) : String :=
  String.ofList x.shortest.text

/-- A character within a string: quotes, backslashes and controls are escaped,
and nothing else. -/
def escape (c : Char) : List Char :=
  if c = '\x22' ∨ c = '\\' then ['\\', c]
  else if c = '\x08' then ['\\', 'b']
  else if c = '\x0c' then ['\\', 'f']
  else if c = '\n' then ['\\', 'n']
  else if c = '\r' then ['\\', 'r']
  else if c = '\t' then ['\\', 't']
  else if c.toNat < 0x20 then
    ['\\', 'u', '0', '0', Nat.digitChar (c.toNat / 16), Nat.digitChar (c.toNat % 16)]
  else [c]

/-- The literal of a string. -/
def stringText (s : String) : String :=
  String.ofList ('\x22' :: (s.toList.flatMap escape ++ ['\x22']))

mutual

/-- The compact text of a document. -/
def compact : Json → String
  | .null => "null"
  | .bool true => "true"
  | .bool false => "false"
  | .int n => toString n
  | .double x => doubleText x
  | .str s => stringText s
  | .arr items => "[" ++ compactItems items ++ "]"
  | .obj members => "\x7b" ++ compactMembers members ++ "\x7d"

/-- The items of an array, separated by commas. -/
def compactItems : List Json → String
  | [] => ""
  | [item] => item.compact
  | item :: rest => item.compact ++ "," ++ compactItems rest

/-- The members of an object, separated by commas. -/
def compactMembers : List (String × Json) → String
  | [] => ""
  | [(name, value)] => stringText name ++ ":" ++ value.compact
  | (name, value) :: rest =>
    stringText name ++ ":" ++ value.compact ++ "," ++ compactMembers rest

end

end Json

end NamedSql
