import Mathlib.Algebra.Order.Field.Power
import Mathlib.Data.Rat.Cast.Order
import Mathlib.Tactic.FieldSimp
import Mathlib.Tactic.Positivity
import NamedSql.Proofs.Number.Rounding

/-!
# Shortest decimal numerals

A numeral is read as a double exactly if it lies in the rounding interval of the double, which
is a matter of the number it denotes and not of its digits.
-/

namespace NamedSql

/-- A number has at most `k` digits if it is less than a power of ten. -/
theorem digitCount_le_iff {n k : Nat} (positive : 0 < k) : digitCount n ≤ k ↔ n < 10 ^ k :=
  Nat.length_toDigits_le_iff (by decide) positive

theorem digitCount_pos (n : Nat) : 0 < digitCount n :=
  Nat.length_toDigits_pos

theorem lt_pow_digitCount (n : Nat) : n < 10 ^ digitCount n :=
  (digitCount_le_iff (digitCount_pos n)).mp (Nat.le_refl _)

theorem pow_digitCount_le {n : Nat} (nonzero : n ≠ 0) : 10 ^ (digitCount n - 1) ≤ n := by
  by_cases single : digitCount n - 1 = 0
  · rw [single, pow_zero]
    omega
  · rw [← not_lt, ← digitCount_le_iff (by omega)]
    have := digitCount_pos n
    omega

/-- The number `digits * 10 ^ exponent`. -/
def scaled (digits : Nat) (exponent : Int) : ℚ :=
  digits * 10 ^ exponent

/-- A number is at least as large as its first digit says. -/
theorem pow_le_scaled {digits : Nat} (nonzero : digits ≠ 0) (exponent : Int) :
    (10 : ℚ) ^ ((digitCount digits : Int) - 1 + exponent) ≤ scaled digits exponent := by
  have positive := digitCount_pos digits
  have leading : (digitCount digits : Int) - 1 = (digitCount digits - 1 : Nat) := by omega
  have least : (10 : ℚ) ^ (digitCount digits - 1) ≤ digits := by
    exact_mod_cast pow_digitCount_le nonzero
  rw [zpow_add₀ (by norm_num), leading, zpow_natCast, scaled]
  exact mul_le_mul_of_nonneg_right least (by positivity)

theorem scaled_lt_pow (digits : Nat) (exponent : Int) :
    scaled digits exponent < 10 ^ ((digitCount digits : Int) + exponent) := by
  have most : (digits : ℚ) < 10 ^ digitCount digits := by
    exact_mod_cast lt_pow_digitCount digits
  rw [zpow_add₀ (by norm_num), zpow_natCast, scaled]
  exact mul_lt_mul_of_pos_right most (by positivity)

/-- Zeros at the end of the digits do not matter. -/
theorem scaled_mul_pow (digits zeros : Nat) (exponent : Int) :
    scaled (digits * 10 ^ zeros) exponent = scaled digits (exponent + zeros) := by
  rw [scaled, scaled, zpow_add₀ (by norm_num), zpow_natCast]
  push_cast
  ring

theorem tenTo_pos (n : Nat) : 0 < tenTo n :=
  Nat.pow_pos (by norm_num)

theorem cast_tenTo (n : Nat) : (tenTo n : ℚ) = 10 ^ (n : Int) := by
  rw [zpow_natCast]
  exact Nat.cast_pow 10 n

theorem tenTo_toNat (exponent : Int) :
    (10 : ℚ) ^ exponent * tenTo (-exponent).toNat = tenTo exponent.toNat := by
  rw [cast_tenTo, cast_tenTo, ← zpow_add₀ (by norm_num)]
  congr 1
  omega

namespace Double

/-- A number of quarters of a unit which lies in an interval. -/
def Interval.Holds (i : Interval) (quarters : ℚ) : Prop :=
  i.low ≤ quarters ∧ quarters ≤ i.high ∧
    (i.closed = true ∨ i.low < quarters ∧ quarters < i.high)

/-- Points and ends of an interval are compared after scaling. -/
theorem Interval.contains_iff_scaled {i : Interval} {digits : Nat} {exponent : Int} :
    i.contains digits exponent = true ↔
      i.low * tenTo (-exponent).toNat ≤ digits * quartersPerOne * tenTo exponent.toNat ∧
      digits * quartersPerOne * tenTo exponent.toNat ≤ i.high * tenTo (-exponent).toNat ∧
      (i.closed = true ∨
        i.low * tenTo (-exponent).toNat < digits * quartersPerOne * tenTo exponent.toNat ∧
        digits * quartersPerOne * tenTo exponent.toNat < i.high * tenTo (-exponent).toNat) := by
  rw [contains]
  cases i.closed with
  | true => simp
  | false =>
      simp only [Bool.false_eq_true, if_false, Bool.and_eq_true, decide_eq_true_eq, false_or]
      constructor
      · rintro ⟨low, high⟩
        exact ⟨low.le, high.le, low, high⟩
      · exact fun inside => inside.2.2

/-- What a numeral denotes, scaled as for comparison. -/
theorem cast_point (digits : Nat) (exponent : Int) :
    ((digits * quartersPerOne * tenTo exponent.toNat : Nat) : ℚ) =
      scaled digits exponent * quartersPerOne * tenTo (-exponent).toNat := by
  push_cast
  rw [← tenTo_toNat, scaled]
  ring

/-- Whether a numeral lies in an interval depends on the number it denotes only. -/
theorem Interval.contains_iff {i : Interval} {digits : Nat} {exponent : Int} :
    i.contains digits exponent = true ↔ i.Holds (scaled digits exponent * quartersPerOne) := by
  have positive : (0 : ℚ) < tenTo (-exponent).toNat := Nat.cast_pos.mpr (tenTo_pos _)
  rw [contains_iff_scaled, Holds, ← Nat.cast_le (α := ℚ), ← Nat.cast_le (α := ℚ),
    ← Nat.cast_lt (α := ℚ), ← Nat.cast_lt (α := ℚ), cast_point, Nat.cast_mul, Nat.cast_mul,
    mul_le_mul_iff_left₀ positive, mul_le_mul_iff_left₀ positive,
    mul_lt_mul_iff_left₀ positive, mul_lt_mul_iff_left₀ positive]

/-- Zero does not lie in an interval of positive numbers. -/
theorem Interval.contains_zero {i : Interval} {exponent : Int} (positive : 0 < i.low) :
    i.contains 0 exponent = false := by
  rw [← Bool.not_eq_true, contains_iff, scaled]
  rintro ⟨low, _⟩
  rw [Nat.cast_zero, zero_mul, zero_mul] at low
  exact absurd (Nat.cast_pos.mpr positive) (not_lt.mpr low)

theorem cast_quartersPerOne : (quartersPerOne : ℚ) = 2 ^ 1076 := by
  have shifted (n : Nat) : ((1 <<< n : Nat) : ℚ) = 2 ^ n := by
    rw [Nat.one_shiftLeft]
    exact Nat.cast_pow 2 n
  have four : ((4 : Nat) : ℚ) = 2 ^ 2 := by norm_num
  rw [quartersPerOne, Nat.cast_mul, unitsPerOne, shifted, four, ← pow_add]

/-- The interval of a double which is not zero has only positive numbers. -/
theorem two_le_low {x : Double} (nonzero : x.magnitude ≠ 0) : 2 ≤ x.roundingInterval.low := by
  have gap : 0 < x.gap := by
    rw [gap_eq]
    exact Nat.two_pow_pos _
  have least : x.gap ≤ x.magnitude := by
    rw [magnitude_eq] at nonzero ⊢
    exact Nat.le_mul_of_pos_left _ (Nat.pos_of_ne_zero (Nat.ne_zero_of_mul_ne_zero_left nonzero))
  simp only [roundingInterval]
  split <;> omega

theorem high_lt (x : Double) : (x.roundingInterval.high : ℚ) < 2 ^ 1025 * quartersPerOne := by
  have below (bits : Nat) (gap : x.gap ≤ 2 ^ bits) :
      (x.roundingInterval.high : ℚ) < 2 ^ (bits + 56) := by
    have most : x.magnitude ≤ 2 ^ 53 * 2 ^ bits := by
      rw [magnitude_eq]
      exact Nat.mul_le_mul x.significand_lt.le gap
    have high : x.roundingInterval.high < 2 ^ (bits + 56) := by
      have positive := Nat.two_pow_pos bits
      rw [roundingInterval, pow_add]
      dsimp only
      omega
    exact_mod_cast high
  rw [cast_quartersPerOne, ← pow_add]
  apply below 2045
  rw [gap_eq]
  exact pow_le_pow_right₀ (by norm_num) (by omega)

theorem quartersPerOne_pos : (0 : ℚ) < quartersPerOne := by
  rw [cast_quartersPerOne]
  positivity

section Contained

variable {x : Double} {digits : Nat} {exponent : Int}

theorem digits_ne_zero (nonzero : x.magnitude ≠ 0)
    (contained : x.roundingInterval.contains digits exponent = true) : digits ≠ 0 := by
  rintro rfl
  rw [Interval.contains_zero (Nat.lt_of_lt_of_le Nat.two_pos (two_le_low nonzero))] at contained
  cases contained

/-- A numeral in the rounding interval of a double is not too large to be expanded. -/
theorem size_le (nonzero : x.magnitude ≠ 0)
    (contained : x.roundingInterval.contains digits exponent = true) :
    digitCount digits + exponent ≤ 310 := by
  obtain ⟨_, high, _⟩ := Interval.contains_iff.mp contained
  have enough : (2 : ℚ) ^ 1025 < 10 ^ 310 := by
    exact_mod_cast (by decide +kernel : 2 ^ 1025 < 10 ^ 310)
  have size : (10 : ℚ) ^ ((digitCount digits : Int) - 1 + exponent) < 10 ^ (310 : Int) :=
    calc (10 : ℚ) ^ ((digitCount digits : Int) - 1 + exponent)
      _ ≤ scaled digits exponent := pow_le_scaled (digits_ne_zero nonzero contained) exponent
      _ < 2 ^ 1025 := by
        rw [← mul_lt_mul_iff_left₀ quartersPerOne_pos]
        exact lt_of_le_of_lt high x.high_lt
      _ < 10 ^ 310 := enough
  have := (zpow_lt_zpow_iff_right₀ (by norm_num : (1 : ℚ) < 10)).mp size
  omega

/-- Neither is it too small. -/
theorem le_size (nonzero : x.magnitude ≠ 0)
    (contained : x.roundingInterval.contains digits exponent = true) :
    -330 ≤ digitCount digits + exponent := by
  obtain ⟨low, _, _⟩ := Interval.contains_iff.mp contained
  have two : (2 : ℚ) ≤ x.roundingInterval.low := by exact_mod_cast two_le_low nonzero
  have enough : (2 : ℚ) ^ 1075 < 10 ^ 330 := by
    exact_mod_cast (by decide +kernel : 2 ^ 1075 < 10 ^ 330)
  have size : (10 : ℚ) ^ (-330 : Int) < 10 ^ ((digitCount digits : Int) + exponent) :=
    calc (10 : ℚ) ^ (-330 : Int)
      _ < (2 ^ 1075)⁻¹ := by
        rw [zpow_neg]
        exact inv_strictAnti₀ (by positivity) enough
      _ ≤ scaled digits exponent := by
        rw [cast_quartersPerOne, pow_succ] at low
        rw [inv_le_iff_one_le_mul₀ (by positivity)]
        generalize (2 : ℚ) ^ 1075 = half at *
        linarith
      _ < 10 ^ ((digitCount digits : Int) + exponent) := scaled_lt_pow digits exponent
  exact ((zpow_lt_zpow_iff_right₀ (by norm_num : (1 : ℚ) < 10)).mp size).le

/-- A numeral in the rounding interval of a double is read as the double. -/
theorem toDouble?_of_contains (nonzero : x.magnitude ≠ 0)
    (contained : x.roundingInterval.contains digits exponent = true) :
    (⟨x.negative, digits, exponent⟩ : Decimal).toDouble? = some x := by
  have someDigits := digits_ne_zero nonzero contained
  have notLarge := size_le nonzero contained
  have notSmall := le_size nonzero contained
  have point : digits * quartersPerOne * tenTo exponent.toNat =
      4 * (digits * tenTo exponent.toNat * unitsPerOne) := by
    rw [quartersPerOne]
    ring
  rw [Interval.contains_iff_scaled, point] at contained
  obtain ⟨low, high, tie⟩ := contained
  have read := ofRatio?_eq x (tenTo_pos _) low high tie
  rw [Decimal.toDouble?]
  dsimp only
  rw [if_neg someDigits, if_neg (by omega), if_neg (by omega)]
  by_cases whole : 0 ≤ exponent
  · have noScale : (-exponent).toNat = 0 := by omega
    rw [noScale] at read
    rw [if_pos whole]
    exact read
  · have noPower : exponent.toNat = 0 := by omega
    rw [noPower, tenTo, Nat.pow_eq, Nat.pow_zero, Nat.mul_one] at read
    rw [if_neg whole]
    exact read

end Contained

/-! ## Grids -/

/-- The middle of an interval lies between two neighbours on a grid. -/
theorem Interval.floor_bounds (i : Interval) (exponent : Int) :
    scaled (i.floor exponent) exponent * quartersPerOne ≤ i.middle ∧
      i.middle < scaled (i.floor exponent + 1) exponent * quartersPerOne := by
  have positive : (0 : ℚ) < tenTo (-exponent).toNat := Nat.cast_pos.mpr (tenTo_pos _)
  have unit : 0 < quartersPerOne * tenTo exponent.toNat := by
    apply Nat.mul_pos
    · decide +kernel
    · exact tenTo_pos _
  have low : i.floor exponent * quartersPerOne * tenTo exponent.toNat ≤
      i.middle * tenTo (-exponent).toNat := by
    rw [Nat.mul_assoc]
    exact Nat.div_mul_le_self _ _
  have high : i.middle * tenTo (-exponent).toNat <
      (i.floor exponent + 1) * quartersPerOne * tenTo exponent.toNat := by
    rw [Nat.mul_assoc]
    exact (Nat.div_lt_iff_lt_mul unit).mp (Nat.lt_succ_self _)
  constructor
  · rw [← mul_le_mul_iff_left₀ positive, ← cast_point]
    exact_mod_cast low
  · rw [← mul_lt_mul_iff_left₀ positive, ← cast_point]
    exact_mod_cast high

/-- What is picked lies in the interval. -/
theorem Interval.contains_of_pick {i : Interval} {exponent : Int} {digits : Nat}
    (picked : i.pick exponent = some digits) : i.contains digits exponent = true := by
  unfold pick at picked
  dsimp only at picked
  split at picked
  · cases picked
  · next below _ =>
    cases picked
    exact (Bool.and_eq_true_iff.mp below).1
  · next _ above =>
    cases picked
    exact above
  · next below above =>
    have below := (Bool.and_eq_true_iff.mp below).1
    split at picked
    · cases picked
      exact below
    · split at picked
      · cases picked
        exact above
      · cases picked
        rcases Nat.mod_two_eq_zero_or_one (i.floor exponent) with even | odd
        · rw [even]
          exact below
        · rw [odd]
          exact above

/-- Nothing is picked only if neither neighbour lies in the interval. -/
theorem Interval.outside_of_pick {i : Interval} {exponent : Int} (positive : 0 < i.low)
    (none : i.pick exponent = none) :
    i.contains (i.floor exponent) exponent = false ∧
      i.contains (i.floor exponent + 1) exponent = false := by
  unfold pick at none
  dsimp only at none
  split at none
  · next below above =>
    constructor
    · rcases Bool.and_eq_false_iff.mp below with outside | zero
      · exact outside
      · rw [bne_eq_false_iff_eq.mp zero]
        exact contains_zero positive
    · exact above
  · cases none
  · cases none
  · split at none
    · cases none
    · split at none <;> cases none

/-- A grid which is finer than the interval is wide has a point in it. -/
theorem Interval.pick_ne_none {i : Interval} {exponent : Int} (positive : 0 < i.low)
    (low : i.low < i.middle) (high : i.middle < i.high)
    (fine : scaled 1 exponent * quartersPerOne < i.high - i.low) : i.pick exponent ≠ none := by
  obtain ⟨least, greatest⟩ := i.floor_bounds exponent
  have next : scaled (i.floor exponent + 1) exponent =
      scaled (i.floor exponent) exponent + scaled 1 exponent := by
    rw [scaled, scaled, scaled]
    push_cast
    ring
  have inside {digits : Nat} (above : i.low < scaled digits exponent * quartersPerOne)
      (below : scaled digits exponent * quartersPerOne < i.high) :
      i.contains digits exponent = true :=
    contains_iff.mpr ⟨above.le, below.le, .inr ⟨above, below⟩⟩
  have left : (i.low : ℚ) < i.middle := by exact_mod_cast low
  have right : (i.middle : ℚ) < i.high := by exact_mod_cast high
  rw [next, add_mul] at greatest
  intro none
  obtain ⟨belowOutside, aboveOutside⟩ := outside_of_pick positive none
  by_cases reaches : scaled (i.floor exponent + 1) exponent * quartersPerOne < i.high
  · have := inside (by rw [next, add_mul]; linarith) reaches
    rw [aboveOutside] at this
    cases this
  · rw [next, add_mul] at reaches
    have : i.contains (i.floor exponent) exponent = true := inside (by linarith) (by linarith)
    rw [belowOutside] at this
    cases this

/-- The leading position is that of the first digit. -/
theorem leadingPosition_le {x : Double} (nonzero : x.magnitude ≠ 0) :
    scaled 1 (x.leadingPosition - 1) * quartersPerOne ≤ x.roundingInterval.middle := by
  have unit : unitsPerOne ≤ tenTo 400 := by decide +kernel
  have many : x.magnitude * tenTo 400 / unitsPerOne ≠ 0 := by
    have := Nat.le_mul_of_pos_left (tenTo 400) (Nat.pos_of_ne_zero nonzero)
    exact (Nat.div_pos (unit.trans this) (by decide +kernel)).ne'
  have first : 10 ^ (digitCount (x.magnitude * tenTo 400 / unitsPerOne) - 1) * unitsPerOne ≤
      x.magnitude * tenTo 400 :=
    (Nat.mul_le_mul_right _ (pow_digitCount_le many)).trans (Nat.div_mul_le_self _ _)
  have positive := digitCount_pos (x.magnitude * tenTo 400 / unitsPerOne)
  have shifted : x.leadingPosition - 1 + (400 : Nat) =
      (digitCount (x.magnitude * tenTo 400 / unitsPerOne) - 1 : Nat) := by
    rw [leadingPosition]
    omega
  have scale : (0 : ℚ) < tenTo 400 := Nat.cast_pos.mpr (tenTo_pos _)
  have power : scaled 1 (x.leadingPosition - 1) * tenTo 400 =
      10 ^ (digitCount (x.magnitude * tenTo 400 / unitsPerOne) - 1) := by
    rw [cast_tenTo, ← zpow_natCast, ← shifted, scaled, zpow_add₀ (by norm_num), Nat.cast_one,
      one_mul]
  have quotient : scaled 1 (x.leadingPosition - 1) * unitsPerOne ≤ x.magnitude := by
    rw [← mul_le_mul_iff_left₀ scale, mul_right_comm, power]
    exact_mod_cast first
  rw [roundingInterval, quartersPerOne]
  push_cast
  linarith

/-- The interval is not much narrower than the gap of the double. -/
theorem middle_lt_width {x : Double} (nonzero : x.magnitude ≠ 0) :
    x.roundingInterval.low < x.roundingInterval.middle ∧
      x.roundingInterval.middle < x.roundingInterval.high ∧
      x.roundingInterval.middle + 10 ^ 16 * x.roundingInterval.low <
        10 ^ 16 * x.roundingInterval.high := by
  have gap : 0 < x.gap := by
    rw [gap_eq]
    exact Nat.two_pow_pos _
  have most : x.magnitude ≤ 2 ^ 53 * x.gap := by
    rw [magnitude_eq]
    exact Nat.mul_le_mul_right _ x.significand_lt.le
  have positive := two_le_low nonzero
  have magnitude := x.magnitude_eq
  simp only [roundingInterval] at positive ⊢
  split
  · next narrow =>
    rw [(x.narrow_iff.mp narrow).2] at magnitude
    omega
  · omega

/-- Seventeen digits suffice. -/
theorem pick_ne_none {x : Double} (nonzero : x.magnitude ≠ 0) :
    x.roundingInterval.pick (x.leadingPosition - 17) ≠ none := by
  obtain ⟨low, high, wide⟩ := middle_lt_width nonzero
  have first := leadingPosition_le nonzero
  have wide : (x.roundingInterval.middle : ℚ) + 10 ^ 16 * x.roundingInterval.low <
      10 ^ 16 * x.roundingInterval.high := by exact_mod_cast wide
  have finer : scaled 1 (x.leadingPosition - 1) =
      10 ^ 16 * scaled 1 (x.leadingPosition - 17) := by
    have power : x.leadingPosition - 1 = x.leadingPosition - 17 + (16 : Nat) := by omega
    rw [power, ← scaled_mul_pow, scaled, scaled]
    push_cast
    ring
  apply Interval.pick_ne_none (Nat.lt_of_lt_of_le Nat.two_pos (two_le_low nonzero)) low high
  rw [finer] at first
  linarith

/-- The search ends with a point of the interval if one of the grids has one. -/
theorem contains_pickFrom {i : Interval} {position : Int} {grids count last : Nat}
    (fine : i.pick (position - last) ≠ none) (start : count ≤ last)
    (reached : last < count + grids) :
    i.contains (pickFrom i position grids count).1 (pickFrom i position grids count).2 = true := by
  induction grids generalizing count with
  | zero => omega
  | succ grids inductionHypothesis =>
      rw [pickFrom]
      split
      · next digits picked => exact Interval.contains_of_pick picked
      · next none =>
        apply inductionHypothesis
        · have : count ≠ last := by
            rintro rfl
            exact fine none
          omega
        · omega

/-- Dropping zeros does not change the number. -/
theorem scaled_dropZeros (limit digits : Nat) (exponent : Int) :
    scaled (dropZeros limit digits exponent).1 (dropZeros limit digits exponent).2 =
      scaled digits exponent := by
  induction limit generalizing digits exponent with
  | zero => rfl
  | succ limit inductionHypothesis =>
      rw [dropZeros]
      split
      · next zero =>
        have whole : digits / 10 * 10 ^ 1 = digits := by omega
        rw [inductionHypothesis, ← Nat.cast_one (R := Int), ← scaled_mul_pow, whole]
      · rfl

/-- The shortest numeral of a double lies in its rounding interval. -/
theorem contains_shortest {x : Double} (nonzero : x.magnitude ≠ 0) :
    x.roundingInterval.contains x.shortest.digits x.shortest.exponent = true := by
  have found : x.roundingInterval.contains
      (pickFrom x.roundingInterval x.leadingPosition 17 1).1
      (pickFrom x.roundingInterval x.leadingPosition 17 1).2 = true :=
    contains_pickFrom (pick_ne_none nonzero) (by decide) (by decide)
  rw [shortest, if_neg nonzero, Interval.contains_iff]
  dsimp only
  rw [scaled_dropZeros, ← Interval.contains_iff]
  exact found

/-- Only the numeral of zero has no digits but zeros. -/
theorem exponent_shortest {x : Double} (zero : x.shortest.digits = 0) :
    x.shortest.exponent = 0 := by
  by_cases noMagnitude : x.magnitude = 0
  · rw [shortest, if_pos noMagnitude]
  · exact absurd zero (digits_ne_zero noMagnitude (contains_shortest noMagnitude))

theorem negative_shortest (x : Double) : x.shortest.negative = x.negative := by
  rw [shortest]
  split <;> rfl

/-- The shortest numeral of a double is read as the double, also with zeros at its end. -/
theorem toDouble?_shortest (x : Double) (zeros : Nat) :
    (⟨x.negative, x.shortest.digits * 10 ^ zeros, x.shortest.exponent - zeros⟩ :
      Decimal).toDouble? = some x := by
  by_cases zero : x.magnitude = 0
  · have same := x.ofMagnitude?_magnitude
    rw [zero] at same
    rw [shortest, if_pos zero]
    dsimp only
    rw [Nat.zero_mul]
    exact same
  · apply toDouble?_of_contains zero
    rw [Interval.contains_iff, scaled_mul_pow, sub_add_cancel, ← Interval.contains_iff]
    exact contains_shortest zero

end Double

end NamedSql
