import NamedSql.Json.Lexer
import NamedSql.Json.Printer
import NamedSql.Proofs.Number.Shortest
import NamedSql.Text.Search

/-!
# Numerals which are printed

A printed number is read as the numeral with the same digits.  The numeral of an integer has
neither point nor exponent, and that of a double has one of them, so that neither is taken for
the other.
-/

namespace NamedSql

/-! ## Digits -/

theorem digitsValue_eq (digits : List Char) :
    Text.digitsValue digits = Nat.ofDigitChars 10 digits 0 :=
  Nat.ofDigitChars_eq_foldl.symm

theorem digitsValue_append (left right : List Char) :
    Text.digitsValue (left ++ right) =
      10 ^ right.length * Text.digitsValue left + Text.digitsValue right := by
  rw [digitsValue_eq, Nat.ofDigitChars_append, Nat.ofDigitChars_eq_ofDigitChars_zero,
    ← digitsValue_eq, ← digitsValue_eq]

theorem digitsValue_zeros (count : Nat) : Text.digitsValue (List.replicate count '0') = 0 := by
  rw [digitsValue_eq, Nat.ofDigitChars_replicate_zero, Nat.mul_zero]

theorem digitsValue_decimalDigits (n : Nat) : Text.digitsValue (decimalDigits n) = n := by
  rw [digitsValue_eq]
  exact Nat.ofDigitChars_ten_toDigits

theorem isDigit_of_mem_decimalDigits {n : Nat} {c : Char} (among : c ∈ decimalDigits n) :
    c.isDigit = true :=
  Nat.isDigit_of_mem_toDigits (by decide) (by decide) among

theorem decimalDigits_ne_nil (n : Nat) : decimalDigits n ≠ [] :=
  Nat.toDigits_ne_nil

/-- Only the digits of zero start with a zero. -/
theorem head?_decimalDigits {n : Nat} (nonzero : n ≠ 0) : (decimalDigits n).head? ≠ some '0' := by
  induction n using Nat.strongRecOn with
  | ind n inductionHypothesis =>
      rw [decimalDigits, Nat.toDigits_eq_if (by decide)]
      split
      · next small =>
        intro zero
        exact nonzero (Nat.digitChar_eq_zero.mp (Option.some.inj zero))
      · next large =>
        have head := inductionHypothesis (n / 10) (by omega) (by omega)
        have nonempty := decimalDigits_ne_nil (n / 10)
        rw [decimalDigits] at head nonempty
        rw [List.head?_append_of_ne_nil _ nonempty]
        exact head

namespace Json

/-! ## Numerals -/

/-- How an exponent is printed. -/
def exponentText : Option Int → List Char
  | none => []
  | some power => 'e' :: (if power < 0 then '-' else '+') :: decimalDigits power.natAbs

namespace Numeral

/-- How a numeral is printed. -/
def text (numeral : Numeral) : List Char :=
  (if numeral.negative then ['-'] else []) ++ (numeral.whole ++
    ((if numeral.fraction = [] then [] else '.' :: numeral.fraction) ++
      exponentText numeral.exponent))

/-- There are digits before the point, the first of which is zero only if it is the only one. -/
structure Proper (numeral : Numeral) : Prop where
  digits : ∀ c ∈ numeral.whole ++ numeral.fraction, c.isDigit = true
  nonempty : numeral.whole ≠ []
  leading : numeral.whole.head? = some '0' → numeral.whole.length ≤ 1

/-- An exponent is read from its text. -/
theorem exponent?_text (exponent : Option Int) :
    exponent? (exponentText exponent) = some exponent := by
  cases exponent with
  | none => rfl
  | some power =>
      have digits : (decimalDigits power.natAbs).all Char.isDigit = true :=
        List.all_eq_true.mpr fun _ among => isDigit_of_mem_decimalDigits among
      have nonempty := decimalDigits_ne_nil power.natAbs
      have absolute := Int.natCast_natAbs power
      rw [exponentText]
      split
      · next below =>
        simp [exponent?, digits, nonempty, digitsValue_decimalDigits]
        rw [abs_of_neg below, neg_neg]
      · next above =>
        simp [exponent?, digits, nonempty, digitsValue_decimalDigits]
        omega

/-- No digit goes on with an exponent. -/
theorem head?_exponentText (exponent : Option Int) :
    ∀ c ∈ (exponentText exponent).head?, c.isDigit = false := by
  cases exponent with
  | none => exact nofun
  | some power =>
      rintro _ ⟨⟩
      rfl

/-- The digits of a fraction are read up to the exponent. -/
theorem fractionDigits?_text {fraction : List Char} (digits : ∀ c ∈ fraction, c.isDigit = true)
    (exponent : Option Int) :
    fractionDigits? ((if fraction = [] then [] else '.' :: fraction) ++ exponentText exponent) =
      some (fraction, exponentText exponent) := by
  split
  · next empty =>
    subst empty
    cases exponent <;> rfl
  · next nonempty =>
    obtain ⟨front, rest⟩ := Text.span_append digits (head?_exponentText exponent)
    simp [fractionDigits?, front, rest, nonempty]

/-- A numeral is read from its text. -/
theorem ofLexeme?_text {numeral : Numeral} (proper : numeral.Proper) :
    ofLexeme? numeral.text = some numeral := by
  rcases numeral with ⟨negative, whole, fraction, exponent⟩
  rcases proper with ⟨digits, nonempty, leading⟩
  dsimp only at digits nonempty leading
  obtain ⟨wholeDigits, fractionDigits⟩ := List.forall_mem_append.mp digits
  have stops : ∀ c ∈ ((if fraction = [] then [] else '.' :: fraction) ++
      exponentText exponent).head?, c.isDigit = false := by
    split
    · exact head?_exponentText exponent
    · rintro _ ⟨⟩
      rfl
  obtain ⟨front, rest⟩ := Text.span_append wholeDigits stops
  have read := fractionDigits?_text fractionDigits exponent
  rw [text]
  dsimp only
  generalize (if fraction = [] then [] else '.' :: fraction) ++ exponentText exponent = after at *
  cases negative with
  | true => simpa [ofLexeme?, front, rest, read, exponent?_text, nonempty] using leading
  | false =>
      cases whole with
      | nil => exact absurd rfl nonempty
      | cons c whole =>
          have notMinus : c ≠ '-' := by
            rintro rfl
            exact absurd (wholeDigits '-' List.mem_cons_self) (by decide)
          rw [List.cons_append] at front rest
          simpa [ofLexeme?, front, rest, read, exponent?_text, notMinus] using leading

/-- A numeral is made of the characters of numbers. -/
theorem isNumeric_of_mem_text {numeral : Numeral} (proper : numeral.Proper) :
    ∀ c ∈ numeral.text, isNumeric c = true := by
  have digit (c : Char) (digit : c.isDigit = true) : isNumeric c = true := by
    simp [isNumeric, digit]
  obtain ⟨whole, fraction⟩ := List.forall_mem_append.mp proper.digits
  intro c among
  rw [text, List.mem_append, List.mem_append, List.mem_append] at among
  rcases among with sign | among | point | exponent
  · split at sign
    · rw [List.mem_singleton.mp sign]
      rfl
    · cases sign
  · exact digit c (whole c among)
  · split at point
    · cases point
    · rcases List.mem_cons.mp point with rfl | among
      · rfl
      · exact digit c (fraction c among)
  · cases exists_power : numeral.exponent with
    | none =>
        rw [exists_power] at exponent
        cases exponent
    | some power =>
        rw [exists_power, exponentText, List.mem_cons, List.mem_cons] at exponent
        rcases exponent with rfl | rfl | among
        · rfl
        · split <;> rfl
        · exact digit c (isDigit_of_mem_decimalDigits among)

theorem text_ne_nil {numeral : Numeral} (proper : numeral.Proper) : numeral.text ≠ [] := by
  rw [text, Ne, List.append_eq_nil_iff, List.append_eq_nil_iff]
  exact fun empty => proper.nonempty empty.2.1

/-- With a point or an exponent, a numeral denotes a double. -/
theorem value?_of_fraction {numeral : Numeral}
    (point : numeral.fraction ≠ [] ∨ numeral.exponent ≠ none) :
    numeral.value? = (Decimal.toDouble? ⟨numeral.negative,
      Text.digitsValue (numeral.whole ++ numeral.fraction),
      numeral.exponent.getD 0 - numeral.fraction.length⟩).map .double := by
  unfold value?
  dsimp only
  split
  · next noFraction noExponent => simp [noFraction, noExponent] at point
  · rfl

/-! ## Doubles -/

/-- A numeral is printed for a decimal number, with zeros at the end of its digits. -/
structure Prints (d : Decimal) (numeral : Numeral) : Prop where
  proper : numeral.Proper
  text : numeral.text = d.text
  point : numeral.fraction ≠ [] ∨ numeral.exponent ≠ none
  sign : numeral.negative = d.negative
  value : ∃ zeros : Nat, Text.digitsValue (numeral.whole ++ numeral.fraction) =
      d.digits * 10 ^ zeros ∧
    numeral.exponent.getD 0 - numeral.fraction.length = d.exponent - zeros

/-- The text of a decimal number is a sign and an absolute value. -/
theorem text_eq_sign_append (d : Decimal) : d.text = (if d.negative then ['-'] else []) ++
    (if d.digits = 0 then ['0', '.', '0']
    else if -5 < d.pointPosition ∧ d.pointPosition ≤ 16 then d.plainText
    else d.scientificText) := by
  rw [Decimal.text]
  cases d.negative <;> rfl

variable {d : Decimal}

theorem prints_zero (zero : d.digits = 0) (unscaled : d.exponent = 0) :
    Prints d ⟨d.negative, ['0'], ['0'], none⟩ := by
  constructor
  · constructor
    · exact List.all_eq_true.mp rfl
    · exact List.cons_ne_nil _ _
    · exact fun _ => Nat.le_refl 1
  · rw [text_eq_sign_append, if_pos zero]
    rfl
  · exact .inl (List.cons_ne_nil _ _)
  · rfl
  · use 1
    rw [zero, unscaled]
    constructor <;> rfl

theorem prints_scientific (nonzero : d.digits ≠ 0)
    (scientific : ¬ (-5 < d.pointPosition ∧ d.pointPosition ≤ 16)) :
    Prints d ⟨d.negative, (decimalDigits d.digits).take 1, (decimalDigits d.digits).drop 1,
      some (d.pointPosition - 1)⟩ := by
  have positive := digitCount_pos d.digits
  constructor
  · constructor
    · intro c among
      rw [List.take_append_drop] at among
      exact isDigit_of_mem_decimalDigits among
    · simp [decimalDigits_ne_nil]
    · intro _
      exact List.length_take_le 1 _
  · rw [text_eq_sign_append, if_neg nonzero, if_neg scientific, Decimal.scientificText, text]
    simp only [List.isEmpty_iff, exponentText, List.append_assoc]
  · exact .inr (Option.some_ne_none _)
  · rfl
  · use 0
    rw [List.take_append_drop, digitsValue_decimalDigits, pow_zero, Nat.mul_one]
    constructor
    · rfl
    · rw [List.length_drop, Option.getD_some, Decimal.pointPosition]
      change _ - (((digitCount d.digits - 1 : Nat) : Nat) : Int) = _
      omega

theorem prints_fraction (nonzero : d.digits ≠ 0)
    (plain : -5 < d.pointPosition ∧ d.pointPosition ≤ 16) (small : ¬ 0 < d.pointPosition) :
    Prints d ⟨d.negative, ['0'],
      List.replicate (-d.pointPosition).toNat '0' ++ decimalDigits d.digits, none⟩ := by
  have positive := digitCount_pos d.digits
  constructor
  · constructor
    · intro c among
      rw [List.mem_append, List.mem_append, List.mem_singleton, List.mem_replicate] at among
      rcases among with rfl | ⟨_, rfl⟩ | digit
      · rfl
      · rfl
      · exact isDigit_of_mem_decimalDigits digit
    · exact List.cons_ne_nil _ _
    · exact fun _ => Nat.le_refl 1
  · rw [text_eq_sign_append, if_neg nonzero, if_pos plain, Decimal.plainText,
      if_neg small, text]
    simp [decimalDigits_ne_nil, exponentText]
  · simp [decimalDigits_ne_nil]
  · rfl
  · use 0
    constructor
    · rw [pow_zero, Nat.mul_one, ← List.append_assoc, digitsValue_append, ← List.replicate_one,
        ← List.replicate_add, digitsValue_zeros, digitsValue_decimalDigits, Nat.mul_zero,
        Nat.zero_add]
    · rw [List.length_append, List.length_replicate, Option.getD_none]
      change 0 - (((-d.pointPosition).toNat + digitCount d.digits : Nat) : Int) = _
      rw [Decimal.pointPosition] at *
      omega

theorem prints_whole (nonzero : d.digits ≠ 0)
    (plain : -5 < d.pointPosition ∧ d.pointPosition ≤ 16) (large : 0 < d.pointPosition)
    (whole : 0 ≤ d.exponent) :
    Prints d ⟨d.negative, decimalDigits d.digits ++ List.replicate d.exponent.toNat '0', ['0'],
      none⟩ := by
  have length : (decimalDigits d.digits).length + d.exponent.toNat = d.pointPosition.toNat := by
    rw [Decimal.pointPosition, digitCount, decimalDigits]
    omega
  constructor
  · constructor
    · intro c among
      rw [List.mem_append, List.mem_append, List.mem_singleton, List.mem_replicate] at among
      rcases among with (digit | ⟨_, rfl⟩) | rfl
      · exact isDigit_of_mem_decimalDigits digit
      · rfl
      · rfl
    · simp [decimalDigits_ne_nil]
    · intro zero
      rw [List.head?_append_of_ne_nil _ (decimalDigits_ne_nil _)] at zero
      exact absurd zero (head?_decimalDigits nonzero)
  · rw [text_eq_sign_append, if_neg nonzero, if_pos plain, Decimal.plainText, if_pos large, text]
    dsimp only
    rw [List.take_of_length_le (by omega), List.drop_of_length_le (by omega)]
    have zeros : d.pointPosition.toNat - (decimalDigits d.digits).length = d.exponent.toNat := by
      omega
    simp [zeros, exponentText]
  · exact .inl (List.cons_ne_nil _ _)
  · rfl
  · use d.exponent.toNat + 1
    constructor
    · rw [List.append_assoc, ← List.replicate_one, ← List.replicate_add, digitsValue_append,
        digitsValue_zeros, digitsValue_decimalDigits, List.length_replicate, Nat.mul_comm,
        Nat.add_zero]
    · rw [Option.getD_none, List.length_singleton]
      omega

theorem prints_point (nonzero : d.digits ≠ 0)
    (plain : -5 < d.pointPosition ∧ d.pointPosition ≤ 16) (large : 0 < d.pointPosition)
    (point : ¬ 0 ≤ d.exponent) :
    Prints d ⟨d.negative, (decimalDigits d.digits).take d.pointPosition.toNat,
      (decimalDigits d.digits).drop d.pointPosition.toNat, none⟩ := by
  have length : d.pointPosition = (decimalDigits d.digits).length + d.exponent := rfl
  have fraction : (decimalDigits d.digits).drop d.pointPosition.toNat ≠ [] := by
    rw [Ne, List.drop_eq_nil_iff]
    omega
  constructor
  · constructor
    · intro c among
      rw [List.take_append_drop] at among
      exact isDigit_of_mem_decimalDigits among
    · rw [Ne, List.take_eq_nil_iff]
      rintro (none | empty)
      · omega
      · exact decimalDigits_ne_nil _ empty
    · intro zero
      rw [List.head?_take, if_neg (by omega)] at zero
      exact absurd zero (head?_decimalDigits nonzero)
  · rw [text_eq_sign_append, if_neg nonzero, if_pos plain, Decimal.plainText, if_pos large, text]
    have noZeros : d.pointPosition.toNat - (decimalDigits d.digits).length = 0 := by omega
    simp [noZeros, exponentText, fraction]
  · exact .inl fraction
  · rfl
  · use 0
    rw [List.take_append_drop, digitsValue_decimalDigits, pow_zero, Nat.mul_one]
    constructor
    · rfl
    · rw [List.length_drop, Option.getD_none]
      omega

/-- What is printed for a decimal number is a numeral. -/
theorem exists_prints (zero : d.digits = 0 → d.exponent = 0) : ∃ numeral, Prints d numeral := by
  by_cases noDigits : d.digits = 0
  · exact ⟨_, prints_zero noDigits (zero noDigits)⟩
  · by_cases plain : -5 < d.pointPosition ∧ d.pointPosition ≤ 16
    · by_cases large : 0 < d.pointPosition
      · by_cases whole : 0 ≤ d.exponent
        · exact ⟨_, prints_whole noDigits plain large whole⟩
        · exact ⟨_, prints_point noDigits plain large whole⟩
      · exact ⟨_, prints_fraction noDigits plain large⟩
    · exact ⟨_, prints_scientific noDigits plain⟩

/-- The text of a double is that of a numeral which denotes it. -/
theorem exists_numeral_of_double (x : Double) :
    ∃ numeral : Numeral, numeral.Proper ∧ (doubleText x).toList = numeral.text ∧
      numeral.value? = some (.double x) := by
  obtain ⟨numeral, printed⟩ := exists_prints x.exponent_shortest
  obtain ⟨zeros, digits, exponent⟩ := printed.value
  refine ⟨numeral, printed.proper, String.toList_ofList.trans printed.text.symm, ?_⟩
  rw [value?_of_fraction printed.point, printed.sign, digits, exponent, x.negative_shortest,
    x.toDouble?_shortest zeros]
  rfl

/-! ## Integers -/

/-- The numeral of an integer. -/
def ofInt (n : Int) : Numeral :=
  ⟨decide (n < 0), decimalDigits n.natAbs, [], none⟩

theorem proper_ofInt (n : Int) : (ofInt n).Proper := by
  constructor
  · intro c among
    rw [ofInt, List.append_nil] at among
    exact isDigit_of_mem_decimalDigits among
  · exact decimalDigits_ne_nil _
  · intro zero
    by_cases noDigits : n.natAbs = 0
    · rw [ofInt, noDigits]
      rfl
    · exact absurd zero (head?_decimalDigits noDigits)

theorem text_ofInt (n : Int) : (toString n).toList = (ofInt n).text := by
  rw [Int.toString_eq_repr, Int.repr_eq_if, ofInt, text, Nat.repr_eq_ofList_toDigits,
    Nat.repr_eq_ofList_toDigits]
  split
  · next nonnegative =>
    have absolute : n.toNat = n.natAbs := by omega
    simp [exponentText, decimalDigits, absolute, nonnegative]
  · next negative =>
    have absolute : (-n).toNat = n.natAbs := by omega
    simp [exponentText, decimalDigits, absolute, not_le.mp negative]

/-- An integer is denoted by its numeral if it fits in 64 bits. -/
theorem value?_ofInt {n : Int} (low : -9223372036854775808 ≤ n)
    (high : n < 18446744073709551616) : (ofInt n).value? = some (.int n) := by
  rw [value?, ofInt]
  dsimp only
  rw [digitsValue_decimalDigits, integer?]
  by_cases negative : n < 0
  · have same : -(n.natAbs : Int) = n := by omega
    rw [decide_eq_true negative, if_pos rfl, if_pos (by omega), same]
    rfl
  · have same : (n.natAbs : Int) = n := by omega
    rw [decide_eq_false negative, if_neg Bool.false_ne_true, if_pos (by omega), same]
    rfl

end Numeral

end Json

end NamedSql
