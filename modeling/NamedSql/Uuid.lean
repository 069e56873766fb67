import NamedSql.Text.Digits

/-!
# UUIDs

A UUID is a number of 128 bits.  It is written as 32 lowercase hexadecimal
digits in groups of 8, 4, 4, 4 and 12, and read in any case, also without
hyphens, in braces, or as a URN.
-/

namespace NamedSql

/-- A number of 128 bits. -/
structure Uuid where
  bits : BitVec 128
deriving DecidableEq

namespace Uuid

/-- The UUID whose bits are those of an integer in two's complement. -/
def ofInt (n : Int) : Uuid :=
  ⟨BitVec.ofInt 128 n⟩

/-- The 32 digits of five hyphenated groups. -/
def joinGroups? (text : List Char) : Option (List Char) :=
  let hyphens := [8, 13, 18, 23].map fun position => text[position]?
  if text.length = 36 ∧ hyphens.all (· == some '-') then
    some (text.take 8 ++ (text.drop 9).take 4 ++ (text.drop 14).take 4 ++
      (text.drop 19).take 4 ++ text.drop 24)
  else none

/-- What a UUID starts with as a URN, in any letter case. -/
def scheme : List Char :=
  ['u', 'r', 'n', ':', 'u', 'u', 'i', 'd', ':']

/-- The digits of any form which is read. -/
def digits? (text : List Char) : Option (List Char) :=
  match text with
  | '{' :: rest => if rest.getLast? = some '\x7d' then joinGroups? rest.dropLast else none
  | _ =>
    if text.length = 32 then some text
    else if (text.take 9).map Char.toLower = scheme then joinGroups? (text.drop 9)
    else joinGroups? text

/-- The UUID which text denotes. -/
def parse? (text : String) : Option Uuid := do
  let digits ← digits? text.toList
  let value ← Text.hexValue? digits
  some ⟨BitVec.ofNat 128 value⟩

/-- Lowercase hexadecimal digits in five groups. -/
def text (u : Uuid) : String :=
  let digits := Text.paddedDigits 16 32 u.bits.toNat
  String.ofList (digits.take 8 ++ '-' :: (digits.drop 8).take 4 ++ '-' :: (digits.drop 12).take 4 ++
    '-' :: (digits.drop 16).take 4 ++ '-' :: digits.drop 20)

end Uuid

end NamedSql
