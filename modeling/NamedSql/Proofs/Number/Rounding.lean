import NamedSql.Number.Decimal
import Mathlib.Algebra.Order.Ring.Nat
import Mathlib.Data.Nat.Log
import Mathlib.Tactic.Linarith
import Mathlib.Tactic.NormNum
import Mathlib.Tactic.Ring

/-!
# Rounding to doubles

A ratio which lies in the rounding interval of a double is rounded to it.  The only double to
which smaller numbers are rounded with more digits than it has itself is a power of two, where
the interval is narrower on that side.
-/

namespace NamedSql

/-- The nearest integer, with a half going to the even neighbour. -/
theorem nearestEven_eq {num den k : Nat} (positive : 0 < den)
    (low : 2 * (k * den) ≤ 2 * num + den) (high : 2 * num ≤ 2 * (k * den) + den)
    (tie : k % 2 = 0 ∨ 2 * (k * den) < 2 * num + den ∧ 2 * num < 2 * (k * den) + den) :
    nearestEven num den = k := by
  have division : num / den * den + num % den = num := Nat.div_add_mod' num den
  have remainder := Nat.mod_lt num positive
  rw [nearestEven]
  generalize num / den = quotient at *
  generalize num % den = rest at *
  have below : quotient ≤ k := by
    by_contra larger
    have := Nat.mul_le_mul_right den (show k + 1 ≤ quotient by omega)
    rw [Nat.add_mul, Nat.one_mul] at this
    omega
  have above : k ≤ quotient + 1 := by
    by_contra larger
    have := Nat.mul_le_mul_right den (show quotient + 2 ≤ k by omega)
    rw [Nat.add_mul] at this
    omega
  rcases (show k = quotient ∨ k = quotient + 1 by omega) with rfl | rfl
  · by_cases less : 2 * rest < den
    · rw [if_pos less]
    · rw [if_neg less, if_neg (by omega)]
      omega
  · rw [Nat.add_mul, Nat.one_mul] at low high tie
    by_cases more : den < 2 * rest
    · rw [if_neg (by omega), if_pos more]
    · rw [if_neg (by omega), if_neg more]
      omega

/-- A quotient has as many bits as it has from its bounds. -/
theorem log2_div_eq {num den bits : Nat} (positive : 0 < den)
    (low : 2 ^ bits * den ≤ num) (high : num < 2 ^ (bits + 1) * den) :
    (num / den).log2 = bits := by
  have least : 2 ^ bits ≤ num / den := (Nat.le_div_iff_mul_le positive).mpr low
  have greatest : num / den < 2 ^ (bits + 1) := (Nat.div_lt_iff_lt_mul positive).mpr high
  have nonzero : num / den ≠ 0 := by
    have := Nat.two_pow_pos bits
    omega
  have := (Nat.le_log2 nonzero).mpr least
  have := (Nat.log2_lt nonzero).mpr greatest
  omega

/-- A ratio is rounded to `m * 2 ^ s` if it lies within half a unit of the last place, and
within a quarter of it below a power of two. -/
theorem nearestWithPrecision_eq {num den m s : Nat} (positive : 0 < den) (bits : m < 2 ^ 53)
    (normal : s = 0 ∨ 2 ^ 52 ≤ m)
    (low : 2 * (m * (den * 2 ^ s)) ≤ 2 * num + den * 2 ^ s)
    (narrow : s ≠ 0 → m = 2 ^ 52 → 4 * (m * (den * 2 ^ s)) ≤ 4 * num + den * 2 ^ s)
    (high : 2 * num ≤ 2 * (m * (den * 2 ^ s)) + den * 2 ^ s)
    (tie : m % 2 = 0 ∨ 2 * (m * (den * 2 ^ s)) < 2 * num + den * 2 ^ s ∧
      2 * num < 2 * (m * (den * 2 ^ s)) + den * 2 ^ s) :
    nearestWithPrecision 53 num den = m * 2 ^ s := by
  have unit : 0 < den * 2 ^ s := Nat.mul_pos positive (Nat.two_pow_pos s)
  have most : num < 2 ^ 53 * (den * 2 ^ s) := by
    have := Nat.mul_le_mul_right (den * 2 ^ s) (show m + 1 ≤ 2 ^ 53 by omega)
    rw [Nat.add_mul, Nat.one_mul] at this
    omega
  have shifted (bits : Nat) : 2 ^ (bits + s) * den = 2 ^ bits * (den * 2 ^ s) := by
    rw [Nat.pow_add]
    ring
  rw [nearestWithPrecision]
  by_cases full : s = 0 ∨ 2 ^ 52 * (den * 2 ^ s) ≤ num
  · have dropped : (num / den).log2 + 1 - 53 = s := by
      rcases full with rfl | full
      · have : num / den < 2 ^ 53 := by
          rw [Nat.div_lt_iff_lt_mul positive]
          omega
        by_cases zero : num / den = 0
        · rw [zero]
          rfl
        · have := (Nat.log2_lt zero).mpr this
          omega
      · have log : (num / den).log2 = 52 + s := by
          apply log2_div_eq positive
          · rw [shifted]
            exact full
          · rw [Nat.add_right_comm, shifted]
            exact most
        omega
    rw [dropped, Nat.shiftLeft_eq, Nat.shiftLeft_eq, nearestEven_eq unit low high tie]
  · -- the ratio lies below a power of two, where there is one more digit to round to
    obtain ⟨shifts, less⟩ := not_or.mp full
    have powerOfTwo : m = 2 ^ 52 := by
      by_contra other
      have := Nat.mul_le_mul_right (den * 2 ^ s) (show 2 ^ 52 + 1 ≤ m by omega)
      rw [Nat.add_mul, Nat.one_mul] at this
      omega
    have close := narrow shifts powerOfTwo
    obtain ⟨r, rfl⟩ := Nat.exists_eq_add_one_of_ne_zero shifts
    have halves : den * 2 ^ (r + 1) = 2 * (den * 2 ^ r) := by ring
    have half : 0 < den * 2 ^ r := Nat.mul_pos positive (Nat.two_pow_pos r)
    subst powerOfTwo
    generalize den * 2 ^ (r + 1) = whole at *
    have log : (num / den).log2 = 52 + r := by
      have shifted (bits : Nat) : 2 ^ (bits + r) * den = 2 ^ bits * (den * 2 ^ r) := by
        rw [Nat.pow_add]
        ring
      apply log2_div_eq positive
      · rw [shifted]
        omega
      · rw [Nat.add_right_comm, shifted]
        omega
    have dropped : (num / den).log2 + 1 - 53 = r := by omega
    have even : nearestEven num (den * 2 ^ r) = 2 ^ 53 := by
      apply nearestEven_eq half
      · omega
      · omega
      · exact .inl rfl
    rw [dropped, Nat.shiftLeft_eq, Nat.shiftLeft_eq, even]
    ring

namespace Double

/-- The significant bits, with the implicit leading one. -/
def significand (x : Double) : Nat :=
  if x.exponent.val = 0 then x.fraction.toNat else 2 ^ 52 + x.fraction.toNat

theorem gap_eq (x : Double) : x.gap = 2 ^ (x.exponent.val - 1) := by
  rw [gap, Nat.one_shiftLeft]

theorem magnitude_eq (x : Double) : x.magnitude = x.significand * x.gap := by
  rw [gap_eq, magnitude, significand]
  split
  · next subnormal => rw [subnormal, Nat.zero_sub, pow_zero, Nat.mul_one]
  · rw [Nat.shiftLeft_eq, Nat.one_shiftLeft]

theorem significand_lt (x : Double) : x.significand < 2 ^ 53 := by
  have := x.fraction.isLt
  rw [significand]
  split <;> omega

theorem significand_even (x : Double) : x.significand % 2 = 0 ↔ x.fraction.toNat % 2 = 0 := by
  rw [significand]
  split <;> omega

/-- Just the powers of two have half the gap below them, except for the least ones. -/
theorem narrow_iff (x : Double) :
    (x.fraction = 0 ∧ 1 < x.exponent.val) ↔ x.exponent.val - 1 ≠ 0 ∧ x.significand = 2 ^ 52 := by
  have zero : x.fraction = 0 ↔ x.fraction.toNat = 0 := BitVec.toNat_inj.symm
  have := x.fraction.isLt
  rw [significand, zero]
  split <;> omega

/-- A double is given by its sign and its magnitude. -/
theorem ofMagnitude?_magnitude (x : Double) : ofMagnitude? x.negative x.magnitude = some x := by
  rcases x with ⟨negative, ⟨exponent, limited⟩, fraction⟩
  have bits := fraction.isLt
  have same : BitVec.ofNat 52 fraction.toNat = fraction := by
    apply BitVec.eq_of_toNat_eq
    rw [BitVec.toNat_ofNat]
    omega
  have leading : BitVec.ofNat 52 (2 ^ 52 + fraction.toNat) = fraction := by
    apply BitVec.eq_of_toNat_eq
    rw [BitVec.toNat_ofNat]
    omega
  have limit : 1 <<< 53 = 2 ^ 53 := rfl
  rw [ofMagnitude?, limit]
  match exponent with
  | 0 =>
      have small : magnitude ⟨negative, ⟨0, limited⟩, fraction⟩ = fraction.toNat := rfl
      have noBits : fraction.toNat >>> 52 = 0 := by
        rw [Nat.shiftRight_eq_div_pow]
        omega
      rw [small, if_pos (by omega), noBits, same]
      rfl
  | 1 =>
      have small : magnitude ⟨negative, ⟨1, limited⟩, fraction⟩ = 2 ^ 52 + fraction.toNat := rfl
      have oneBit : (2 ^ 52 + fraction.toNat) >>> 52 = 1 := by
        rw [Nat.shiftRight_eq_div_pow]
        omega
      rw [small, if_pos (by omega), oneBit, leading]
      rfl
  | shift + 2 =>
      have large : magnitude ⟨negative, ⟨shift + 2, limited⟩, fraction⟩ =
          (2 ^ 52 + fraction.toNat) * 2 ^ (shift + 1) := Nat.shiftLeft_eq _ _
      have doubled : 2 ≤ 2 ^ (shift + 1) := by
        have := Nat.two_pow_pos shift
        omega
      have most := Nat.mul_le_mul_left (2 ^ 52 + fraction.toNat) doubled
      have log : ((2 ^ 52 + fraction.toNat) * 2 ^ (shift + 1)).log2 = shift + 53 := by
        have least : 2 ^ (shift + 53) = 2 ^ 52 * 2 ^ (shift + 1) := by ring
        have next : 2 ^ (shift + 53 + 1) = 2 ^ 53 * 2 ^ (shift + 1) := by ring
        rw [Nat.log2_eq_iff (by omega), least, next]
        constructor
        · apply Nat.mul_le_mul_right
          omega
        · apply Nat.mul_lt_mul_of_pos_right
          · omega
          · exact Nat.two_pow_pos _
      have shifted : ((2 ^ 52 + fraction.toNat) * 2 ^ (shift + 1)) >>> (shift + 1) =
          2 ^ 52 + fraction.toNat := by
        rw [Nat.shiftRight_eq_div_pow, Nat.mul_div_cancel _ (Nat.two_pow_pos _)]
      have digits : shift + 53 - 52 = shift + 1 := by omega
      rw [large, if_neg (by omega), log, digits]
      simp only [shifted, leading]
      rw [if_pos (by omega)]
      have exponent : Fin.ofNat 2047 (shift + 1 + 1) = ⟨shift + 2, limited⟩ :=
        Fin.ext (Nat.mod_eq_of_lt limited)
      rw [exponent]

/-- A ratio in the rounding interval of a double is rounded to it. -/
theorem ofRatio?_eq (x : Double) {num den : Nat} (positive : 0 < den)
    (low : x.roundingInterval.low * den ≤ 4 * (num * unitsPerOne))
    (high : 4 * (num * unitsPerOne) ≤ x.roundingInterval.high * den)
    (tie : x.roundingInterval.closed = true ∨
      x.roundingInterval.low * den < 4 * (num * unitsPerOne) ∧
        4 * (num * unitsPerOne) < x.roundingInterval.high * den) :
    ofRatio? x.negative num den = some x := by
  have scaled : x.magnitude * den = x.significand * (den * x.gap) := by
    rw [magnitude_eq]
    ring
  have swapped : x.gap * den = den * x.gap := Nat.mul_comm _ _
  have below : (if x.fraction = 0 ∧ 1 < x.exponent.val then x.gap else 2 * x.gap) * den ≤
      2 * (den * x.gap) := by
    rw [← swapped, ← Nat.mul_assoc]
    apply Nat.mul_le_mul_right
    split <;> omega
  simp only [roundingInterval, decide_eq_true_eq, Nat.sub_mul, Nat.add_mul, Nat.mul_assoc,
    scaled] at low high tie
  have rounded : nearestWithPrecision 53 (num * unitsPerOne) den =
      x.significand * 2 ^ (x.exponent.val - 1) := by
    apply nearestWithPrecision_eq positive x.significand_lt
    · rw [significand]
      split <;> omega
    all_goals rw [← gap_eq]
    · omega
    · intro shifts powerOfTwo
      rw [if_pos (x.narrow_iff.mpr ⟨shifts, powerOfTwo⟩)] at low
      omega
    · omega
    · rcases tie with closed | ⟨low, high⟩
      · exact .inl (x.significand_even.mpr closed)
      · right
        omega
  rw [ofRatio?, rounded, ← gap_eq, ← magnitude_eq, ofMagnitude?_magnitude]

end Double

end NamedSql
