import NamedSql.Text.Blank
import NamedSql.Text.Digits

/-!
# Durations

A duration is written as numbers with units of time, such as `1m 30s`.  Blanks
may stand anywhere between the parts and also within a number.  A number, a
part and the whole must each fit in 64 bits, parts below a second being counted
in nanoseconds and the others in seconds.
-/

namespace NamedSql

/-- A length of time, which is not negative. -/
structure Duration where
  nanoseconds : Nat
deriving DecidableEq

namespace Duration

def ofSeconds (n : Nat) : Duration := ⟨n * 1000000000⟩

def ofMilliseconds (n : Nat) : Duration := ⟨n * 1000000⟩

/-- Whole seconds. -/
def seconds (d : Duration) : Nat := d.nanoseconds / 1000000000

/-- Nanoseconds after the whole seconds. -/
def subsecond (d : Duration) : Nat := d.nanoseconds % 1000000000

/-- Whole milliseconds. -/
def milliseconds (d : Duration) : Nat := d.nanoseconds / 1000000

/-- Units below a second, in nanoseconds. -/
def subsecondUnits : List (String × Nat) :=
  [("ns", 1), ("nsec", 1), ("nanos", 1),
   ("us", 1000), ("usec", 1000), ("µs", 1000),
   ("ms", 1000000), ("msec", 1000000), ("millis", 1000000)]

/-- Units from a second on, in seconds.  A month is a twelfth of a year of 365
and a quarter days, rounded to 30.44 days. -/
def secondUnits : List (String × Nat) :=
  [("s", 1), ("sec", 1), ("secs", 1), ("second", 1), ("seconds", 1),
   ("m", 60), ("min", 60), ("mins", 60), ("minute", 60), ("minutes", 60),
   ("h", 3600), ("hr", 3600), ("hrs", 3600), ("hour", 3600), ("hours", 3600),
   ("d", 86400), ("day", 86400), ("days", 86400),
   ("w", 604800), ("wk", 604800), ("wks", 604800), ("week", 604800), ("weeks", 604800),
   ("M", 2630016), ("month", 2630016), ("months", 2630016),
   ("y", 31557600), ("yr", 31557600), ("yrs", 31557600), ("year", 31557600),
   ("years", 31557600)]

/-- Numbers of more than 64 bits are not read. -/
def fits (n : Nat) : Option Nat :=
  if n < 18446744073709551616 then some n else none

/-- Add `n` units to a duration. -/
def addPart? (total : Duration) (n : Nat) (unit : String) : Option Duration :=
  match subsecondUnits.lookup unit with
  | some size => do
    let part ← fits (n * size)
    let subsecond ← fits (total.subsecond + part)
    let _ ← fits (total.seconds + subsecond / 1000000000)
    some ⟨total.nanoseconds + part⟩
  | none => do
    let size ← secondUnits.lookup unit
    let part ← fits (n * size)
    let _ ← fits (total.seconds + part)
    some ⟨total.nanoseconds + part * 1000000000⟩

/-- What was read since the last complete part. -/
inductive Pending where
  | nothing
  /-- A number so far. -/
  | number (n : Nat)
  /-- A number and its unit so far, the last letter first. -/
  | unit (n : Nat) (letters : List Char)

/-- The total with the pending part, which must have a unit. -/
def complete? (total : Duration) : Pending → Option Duration
  | .nothing => some total
  | .number _ => none
  | .unit n letters => total.addPart? n (String.ofList letters.reverse)

/-- The letters which units are made of: those of ASCII and the micro sign. -/
def isUnitLetter (c : Char) : Bool :=
  c.isAlpha || c == 'µ'

/-- Read one character.  A blank ends a unit, and a digit starts a number after
one. -/
def readChar? (total : Duration) (pending : Pending) (c : Char) : Option (Duration × Pending) :=
  if c.isDigit then
    let digit := Text.digitsValue [c]
    match pending with
    | .nothing => some (total, .number digit)
    | .number n => (fits (10 * n + digit)).map fun n => (total, .number n)
    | .unit _ _ => (total.complete? pending).map fun total => (total, .number digit)
  else if Text.isBlank c then
    match pending with
    | .unit _ _ => (total.complete? pending).map fun total => (total, .nothing)
    | _ => some (total, pending)
  else if isUnitLetter c then
    match pending with
    | .nothing => none
    | .number n => some (total, .unit n [c])
    | .unit n letters => some (total, .unit n (c :: letters))
  else none

/-- Read text from the given state on. -/
def readFrom? (total : Duration) (pending : Pending) : List Char → Option Duration
  | [] => total.complete? pending
  | c :: rest => do
    let (total, pending) ← total.readChar? pending c
    readFrom? total pending rest

/-- The duration which text denotes: at least one number with a unit, or a lone
zero. -/
def parse? (text : String) : Option Duration :=
  if text = "0" then some ⟨0⟩
  else if text.toList.all Text.isBlank then none
  else readFrom? ⟨0⟩ .nothing text.toList

/-- A part in a long unit, which has a plural; nothing for none of them. -/
def longPart (n : Nat) (unit : String) : List String :=
  if n = 0 then [] else [toString n ++ unit ++ (if n = 1 then "" else "s")]

/-- A part in an abbreviated unit; nothing for none of them. -/
def shortPart (n : Nat) (unit : String) : List String :=
  if n = 0 then [] else [toString n ++ unit]

/-- The parts which are not zero, the largest unit first. -/
def text (d : Duration) : String :=
  let days := d.seconds % 31557600 % 2630016
  let time := days % 86400
  let parts :=
    longPart (d.seconds / 31557600) "year" ++ longPart (d.seconds % 31557600 / 2630016) "month" ++
    longPart (days / 86400) "day" ++ shortPart (time / 3600) "h" ++
    shortPart (time % 3600 / 60) "m" ++ shortPart (time % 60) "s" ++
    shortPart (d.subsecond / 1000000) "ms" ++ shortPart (d.subsecond / 1000 % 1000) "us" ++
    shortPart (d.subsecond % 1000) "ns"
  if parts.isEmpty then "0s" else " ".intercalate parts

end Duration

end NamedSql
