import NamedSql.Text.Blank
import NamedSql.Text.Digits
import NamedSql.Time.Calendar

/-!
# Timestamps

Points in time in UTC, to the nanosecond.  They are read in two ways.  Bound
values follow RFC 3339 to the letter.  Values read back from the database may
also have blanks between their parts, signed years, short numbers, and offsets
without a colon.
-/

namespace NamedSql

/-- A point in time.  A leap second is the second before it, with more than
`999999999` nanoseconds. -/
structure Timestamp where
  /-- Seconds from the start of 1970, rounded down. -/
  seconds : Int
  nanoseconds : Nat
deriving DecidableEq

namespace Timestamp

/-- The time of a day as it is written. -/
structure Clock where
  hour : Nat
  minute : Nat
  second : Nat
  nanoseconds : Nat

/-- Hours to 23, minutes to 59, and seconds to 60 for leap seconds. -/
def Clock.isValid (c : Clock) : Bool :=
  decide (c.hour ≤ 23 ∧ c.minute ≤ 59 ∧ c.second ≤ 60)

/-- The first and the last year of which points in time are representable. -/
def firstYear : Int := -262143
def lastYear : Int := 262142

/-- Whether a point in time lies in the representable years. -/
def isRepresentable (t : Timestamp) : Bool :=
  decide (firstYear ≤ (Date.ofDays (t.seconds / 86400)).year ∧
    (Date.ofDays (t.seconds / 86400)).year ≤ lastYear)

/-- The point in time at a date and time of day whose clocks are `offset`
seconds ahead of UTC, if there is such a date and time. -/
def ofParts? (date : Date) (clock : Clock) (offset : Int) : Option Timestamp :=
  if date.isValid ∧ clock.isValid ∧ firstYear ≤ date.year ∧ date.year ≤ lastYear then
    let leap := clock.second / 60
    let timeOfDay := clock.hour * 3600 + clock.minute * 60 + (clock.second - leap)
    let timestamp : Timestamp :=
      ⟨date.toDays * 86400 + timeOfDay - offset, clock.nanoseconds + leap * 1000000000⟩
    if timestamp.isRepresentable then some timestamp else none
  else none

/-- A point and digits after it, of which nine count; none without a point. -/
def takeFraction? : List Char → Option (Nat × List Char)
  | '.' :: text => do
    let (digits, rest) ← Text.takeDigits? 1 9 text
    let zeros := List.replicate (9 - digits.length) '0'
    some (Text.digitsValue (digits ++ zeros), rest.dropWhile Char.isDigit)
  | text => some (0, text)

/-- An offset from UTC in seconds, `skip` reading what stands between hours and
minutes.  Hours must be below 24 and minutes below 60. -/
def takeOffset? (skip : List Char → Option (List Char)) : List Char → Option (Int × List Char)
  | 'Z' :: rest | 'z' :: rest => some (0, rest)
  | sign :: text => do
    let direction : Int ←
      if sign = '+' then some 1 else if sign = '-' ∨ sign = '\u2212' then some (-1) else none
    let (hours, text) ← Text.takeNumber? 2 2 text
    let text ← skip text
    let (minutes, rest) ← Text.takeNumber? 2 2 text
    if hours ≤ 23 ∧ minutes ≤ 59 then some (direction * (hours * 3600 + minutes * 60), rest)
    else none
  | [] => none

/-- What may stand between date and time: the letter T or one space. -/
def takeDivider? : List Char → Option (List Char)
  | 'T' :: rest | 't' :: rest | ' ' :: rest => some rest
  | _ => none

/-- Read text as RFC 3339 defines it. -/
def parse? (text : String) : Option Timestamp := do
  let (year, rest) ← Text.takeNumber? 4 4 text.toList
  let rest ← Text.takeChar? '-' rest
  let (month, rest) ← Text.takeNumber? 2 2 rest
  let rest ← Text.takeChar? '-' rest
  let (day, rest) ← Text.takeNumber? 2 2 rest
  let rest ← takeDivider? rest
  let (hour, rest) ← Text.takeNumber? 2 2 rest
  let rest ← Text.takeChar? ':' rest
  let (minute, rest) ← Text.takeNumber? 2 2 rest
  let rest ← Text.takeChar? ':' rest
  let (second, rest) ← Text.takeNumber? 2 2 rest
  let (nanoseconds, rest) ← takeFraction? rest
  let (offset, rest) ← takeOffset? (Text.takeChar? ':') rest
  if rest.isEmpty then ofParts? ⟨year, month, day⟩ ⟨hour, minute, second, nanoseconds⟩ offset
  else none

/-- A year after blanks: up to four digits, or any number of them after a
sign. -/
def takeYear? (text : List Char) : Option (Int × List Char) :=
  match Text.trimStart text with
  | '-' :: rest => (Text.takeNumber? 1 rest.length rest).map fun (year, rest) => (-(year : Int), rest)
  | '+' :: rest => (Text.takeNumber? 1 rest.length rest).map fun (year, rest) => ((year : Int), rest)
  | rest => (Text.takeNumber? 1 4 rest).map fun (year, rest) => ((year : Int), rest)

/-- One or two digits after blanks. -/
def takeShort? (text : List Char) : Option (Nat × List Char) :=
  Text.takeNumber? 1 2 (Text.trimStart text)

/-- A character after blanks. -/
def takeMark? (mark : Char) (text : List Char) : Option (List Char) :=
  Text.takeChar? mark (Text.trimStart text)

/-- The offset after blanks: `UTC` in any case, or an offset whose parts have
any colons and blanks between them, or none. -/
def takeLenientOffset? (text : List Char) : Option (Int × List Char) :=
  let text := Text.trimStart text
  if (text.take 3).map Char.toLower = ['u', 't', 'c'] then some (0, text.drop 3)
  else takeOffset? (fun rest => some (rest.dropWhile fun c => c == ':' || Text.isBlank c)) text

/-- Read text leniently. -/
def parseLenient? (text : String) : Option Timestamp := do
  let (year, rest) ← takeYear? text.toList
  let rest ← takeMark? '-' rest
  let (month, rest) ← takeShort? rest
  let rest ← takeMark? '-' rest
  let (day, rest) ← takeShort? rest
  let rest ← takeDivider? rest
  let (hour, rest) ← takeShort? rest
  let rest ← takeMark? ':' rest
  let (minute, rest) ← takeShort? rest
  let rest ← takeMark? ':' rest
  let (second, rest) ← takeShort? rest
  let (nanoseconds, rest) ← takeFraction? rest
  let (offset, rest) ← takeLenientOffset? rest
  if (Text.trimStart rest).isEmpty then
    ofParts? ⟨year, month, day⟩ ⟨hour, minute, second, nanoseconds⟩ offset
  else none

/-- A year of four digits, with a sign unless it is from 0 to 9999. -/
def yearText (year : Int) : List Char :=
  let digits := Text.paddedDigits 10 4 year.natAbs
  if year < 0 then '-' :: digits
  else if 9999 < year then '+' :: digits
  else digits

/-- The fewest of 0, 3, 6 and 9 digits which are exact, after a point. -/
def fractionText (nanoseconds : Nat) : List Char :=
  if nanoseconds = 0 then []
  else if nanoseconds % 1000000 = 0 then '.' :: Text.paddedDigits 10 3 (nanoseconds / 1000000)
  else if nanoseconds % 1000 = 0 then '.' :: Text.paddedDigits 10 6 (nanoseconds / 1000)
  else '.' :: Text.paddedDigits 10 9 nanoseconds

/-- Date and time of day without a zone.  A leap second is second 60. -/
def localText (t : Timestamp) : String :=
  let date := Date.ofDays (t.seconds / 86400)
  let timeOfDay := (t.seconds % 86400).toNat
  let leap := t.nanoseconds / 1000000000
  String.ofList (yearText date.year ++ '-' :: Text.paddedDigits 10 2 date.month ++
    '-' :: Text.paddedDigits 10 2 date.day ++ 'T' :: Text.paddedDigits 10 2 (timeOfDay / 3600) ++
    ':' :: Text.paddedDigits 10 2 (timeOfDay % 3600 / 60) ++
    ':' :: Text.paddedDigits 10 2 (timeOfDay % 60 + leap) ++ fractionText (t.nanoseconds % 1000000000))

/-- Date and time of day in UTC, as RFC 3339 defines it. -/
def text (t : Timestamp) : String :=
  t.localText.push 'Z'

/-- The point in time which is a number of nanoseconds after the start of
1970. -/
def ofNanoseconds (n : Int) : Timestamp :=
  ⟨n / 1000000000, (n % 1000000000).toNat⟩

end Timestamp

end NamedSql
