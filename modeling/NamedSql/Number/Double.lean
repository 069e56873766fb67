/-!
# Finite double-precision numbers

A `Double` is a finite IEEE 754 binary64 number, given by its sign, biased
exponent and fraction.  Every finite number is an integer multiple of the least
positive one, `2 ^ -1074`, so its absolute value is a natural number of those
units.  Rounding is therefore exact arithmetic on natural numbers: no
floating-point operation of the machine takes part.
-/

namespace NamedSql

/-- The integer nearest to `num / den`, a half going to the even neighbour. -/
def nearestEven (num den : Nat) : Nat :=
  let quotient := num / den
  let rest := num % den
  if 2 * rest < den then quotient
  else if den < 2 * rest then quotient + 1
  else quotient + quotient % 2

/-- The natural number nearest to `num / den` which has at most `precision`
significant bits, a half going to the even neighbour. -/
def nearestWithPrecision (precision num den : Nat) : Nat :=
  let dropped := (num / den).log2 + 1 - precision
  nearestEven num (den <<< dropped) <<< dropped

/-- A finite binary64 number. -/
structure Double where
  /-- Whether the sign bit is set; zero has either sign. -/
  negative : Bool
  /-- The biased exponent.  The exponent 2047 belongs to infinities and NaN,
  which are no `Double`s. -/
  exponent : Fin 2047
  /-- The fraction, without the implicit leading bit. -/
  fraction : BitVec 52
deriving DecidableEq, Inhabited

namespace Double

/-- Number of units `2 ^ -1074` in one. -/
def unitsPerOne : Nat := 1 <<< 1074

/-- The absolute value, as a number of units. -/
def magnitude (x : Double) : Nat :=
  if x.exponent.val = 0 then x.fraction.toNat
  else (1 <<< 52 + x.fraction.toNat) <<< (x.exponent.val - 1)

/-- The distance to the next larger absolute value, as a number of units. -/
def gap (x : Double) : Nat :=
  1 <<< (x.exponent.val - 1)

/-- The 64 bits of the interchange format. -/
def bits (x : Double) : Nat :=
  (if x.negative then 1 <<< 63 else 0) + x.exponent.val <<< 52 + x.fraction.toNat

/-- Zero of the given sign. -/
def zero (negative : Bool) : Double :=
  ⟨negative, 0, 0⟩

/-- The number of the given sign and magnitude, which must have at most 53
significant bits; `none` if it is too large to be finite. -/
def ofMagnitude? (negative : Bool) (magnitude : Nat) : Option Double :=
  if magnitude < 1 <<< 53 then
    some ⟨negative, Fin.ofNat 2047 (magnitude >>> 52), BitVec.ofNat 52 magnitude⟩
  else
    let shift := magnitude.log2 - 52
    if shift + 1 < 2047 then
      some ⟨negative, Fin.ofNat 2047 (shift + 1), BitVec.ofNat 52 (magnitude >>> shift)⟩
    else
      none

/-- The double nearest to a ratio, ties to even; `none` if it overflows. -/
def ofRatio? (negative : Bool) (num den : Nat) : Option Double :=
  ofMagnitude? negative (nearestWithPrecision 53 (num * unitsPerOne) den)

/-- The double nearest to an integer, ties to even; `none` if it overflows. -/
def ofInt? (n : Int) : Option Double :=
  ofRatio? (decide (n < 0)) n.natAbs 1

/-- Number of double units in the least positive single-precision number. -/
def unitsPerSingleUnit : Nat := 1 <<< 925

/-- The single-precision number nearest to `x`, ties to even, as a double;
`none` if it overflows single precision. -/
def toSingle? (x : Double) : Option Double :=
  let single := nearestWithPrecision 24 x.magnitude unitsPerSingleUnit
  if single < 1 <<< 277 then ofMagnitude? x.negative (single * unitsPerSingleUnit) else none

end Double

end NamedSql
