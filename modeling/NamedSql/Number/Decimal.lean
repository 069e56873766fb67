import NamedSql.Number.Double

/-!
# Decimal numerals

Reading rounds a decimal numeral to the nearest double.  Writing chooses, among
the numerals which are read as a given double, one with the fewest digits, and
of these the one nearest to the double.  Both are exact arithmetic on natural
numbers.
-/

namespace NamedSql

/-- The number `± digits * 10 ^ exponent`. -/
structure Decimal where
  negative : Bool
  digits : Nat
  exponent : Int
deriving DecidableEq

/-- Ten to a power. -/
def tenTo (exponent : Nat) : Nat :=
  Nat.pow 10 exponent

/-- Number of decimal digits of a positive number. -/
def digitCount (n : Nat) : Nat :=
  (Nat.toDigits 10 n).length

namespace Decimal

/-- The nearest double, ties to even; `none` if it overflows.  A numeral whose
size alone decides the answer is not expanded. -/
def toDouble? (d : Decimal) : Option Double :=
  let size := (digitCount d.digits : Int) + d.exponent
  if d.digits = 0 then some (.zero d.negative)
  else if 310 < size then none
  else if size < -330 then some (.zero d.negative)
  else if 0 ≤ d.exponent then Double.ofRatio? d.negative (d.digits * tenTo d.exponent.toNat) 1
  else Double.ofRatio? d.negative d.digits (tenTo (-d.exponent).toNat)

end Decimal

namespace Double

/-- Quarters of a unit in one. -/
def quartersPerOne : Nat := 4 * unitsPerOne

/-- The interval of reals which round to a positive double, in quarters of a
unit: its middle, its ends, and whether the ends belong to it. -/
structure Interval where
  low : Nat
  middle : Nat
  high : Nat
  closed : Bool

/-- Half a gap on either side, but half as much below a power of two. -/
def roundingInterval (x : Double) : Interval where
  low := 4 * x.magnitude - (if x.fraction = 0 ∧ 1 < x.exponent.val then x.gap else 2 * x.gap)
  middle := 4 * x.magnitude
  high := 4 * x.magnitude + 2 * x.gap
  closed := x.fraction.toNat % 2 = 0

/-- Whether `digits * 10 ^ exponent` lies in the interval. -/
def Interval.contains (i : Interval) (digits : Nat) (exponent : Int) : Bool :=
  let point := digits * quartersPerOne * tenTo exponent.toNat
  let scale := tenTo (-exponent).toNat
  if i.closed then i.low * scale ≤ point && point ≤ i.high * scale
  else i.low * scale < point && point < i.high * scale

/-- The greatest multiple of `10 ^ exponent` which is at most the middle. -/
def Interval.floor (i : Interval) (exponent : Int) : Nat :=
  i.middle * tenTo (-exponent).toNat / (quartersPerOne * tenTo exponent.toNat)

/-- Of the two neighbours `digits` and `digits + 1` of the middle on the grid
`10 ^ exponent`, the one in the interval; if both are, the nearer, a tie going
to the even one. -/
def Interval.pick (i : Interval) (exponent : Int) : Option Nat :=
  let below := i.floor exponent
  let double := 2 * i.middle * tenTo (-exponent).toNat
  let between := (2 * below + 1) * quartersPerOne * tenTo exponent.toNat
  match i.contains below exponent && below != 0, i.contains (below + 1) exponent with
  | false, false => none
  | true, false => some below
  | false, true => some (below + 1)
  | true, true =>
    if double < between then some below
    else if between < double then some (below + 1)
    else some (below + below % 2)

/-- Position of the first digit: the least `p` with `|x| < 10 ^ p`. -/
def leadingPosition (x : Double) : Int :=
  digitCount (x.magnitude * tenTo 400 / unitsPerOne) - (400 : Int)

/-- Search the grids of `count`, `count + 1`, … digits. -/
def pickFrom (i : Interval) (position : Int) : (grids count : Nat) → Nat × Int
  | 0, count => (i.floor (position - count), position - count)
  | grids + 1, count =>
    match i.pick (position - count) with
    | some digits => (digits, position - count)
    | none => pickFrom i position grids (count + 1)

/-- Drop trailing zeros of the digits, at most `limit` of them. -/
def dropZeros : (limit digits : Nat) → (exponent : Int) → Nat × Int
  | 0, digits, exponent => (digits, exponent)
  | limit + 1, digits, exponent =>
    if digits % 10 = 0 then dropZeros limit (digits / 10) (exponent + 1) else (digits, exponent)

/-- The numeral with the fewest digits which reads back as `x`, and of these
the nearest to `x`.  Seventeen digits always suffice. -/
def shortest (x : Double) : Decimal :=
  if x.magnitude = 0 then ⟨x.negative, 0, 0⟩
  else
    let (digits, exponent) := pickFrom x.roundingInterval x.leadingPosition 17 1
    let (digits, exponent) := dropZeros 17 digits exponent
    ⟨x.negative, digits, exponent⟩

end Double

end NamedSql
