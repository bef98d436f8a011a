import DocHarvest.Number.Binary64
import Mathlib.Algebra.Order.Field.Power
import Mathlib.Data.Int.Log
import Mathlib.Data.Rat.Floor
import Mathlib.Tactic.FieldSimp
import Mathlib.Tactic.Linarith
import Mathlib.Tactic.NormNum
import Mathlib.Tactic.Positivity
import Mathlib.Tactic.Ring

/-!
# Rounding to double precision

Rounding depends on the value of a quotient alone, not on the numbers that it is written with: the
exponent is a logarithm of the value, and the mantissa a rounded quotient. What rounding gives is in
canonical form, and a number in that form is its own rounding. The same holds for decimals.
-/

namespace DocHarvest.Binary64

/-- A number in the form that rounding gives: 53 bits, or fewer at the least exponent. -/
def IsCanonical : Binary64 → Prop
  | .finite _ mantissa exponent =>
      mantissa < 2 ^ 53 ∧ leastExponent ≤ exponent ∧ exponent ≤ greatestExponent ∧
        (2 ^ 52 ≤ mantissa ∨ exponent = leastExponent)
  | .infinite _ | .nan => True

variable {numerator denominator otherNumerator otherDenominator : Nat}

/-! ## Quotients -/

theorem roundDiv_mul_right (numerator denominator : Nat) {factor : Nat} (isPos : 0 < factor) :
    roundDiv (numerator * factor) (denominator * factor) = roundDiv numerator denominator := by
  have doubled (part : Nat) : 2 * (part * factor) = 2 * part * factor := by ring
  simp only [roundDiv, Nat.mul_div_mul_right _ _ isPos, Nat.mul_mod_mul_right, doubled,
    Nat.mul_lt_mul_right isPos]

theorem roundDiv_congr (isPos : 0 < denominator) (isPosToo : 0 < otherDenominator)
    (same : (numerator : ℚ) / denominator = otherNumerator / otherDenominator) :
    roundDiv numerator denominator = roundDiv otherNumerator otherDenominator := by
  have crossed : numerator * otherDenominator = otherNumerator * denominator := by
    rw [div_eq_div_iff (by positivity) (by positivity)] at same
    exact_mod_cast same
  rw [← roundDiv_mul_right numerator denominator isPosToo, crossed, mul_comm denominator,
    roundDiv_mul_right _ _ isPos]

theorem roundDiv_le {bound : Nat} (isPos : 0 < denominator)
    (isBelow : numerator ≤ bound * denominator) : roundDiv numerator denominator ≤ bound := by
  have split := Nat.div_add_mod numerator denominator
  have small := Nat.mod_lt numerator isPos
  have quotient : numerator / denominator ≤ bound := Nat.div_le_of_le_mul (by linarith)
  unfold roundDiv
  dsimp only
  by_cases isBound : numerator / denominator = bound
  · have noRest : numerator % denominator = 0 := by
      rw [isBound, mul_comm] at split
      omega
    rw [noRest, if_pos (by omega), isBound]
  · split_ifs <;> omega

theorem le_roundDiv {bound : Nat} (isPos : 0 < denominator)
    (isAbove : bound * denominator ≤ numerator) : bound ≤ roundDiv numerator denominator := by
  have quotient : bound ≤ numerator / denominator := (Nat.le_div_iff_mul_le isPos).2 isAbove
  unfold roundDiv
  dsimp only
  split_ifs <;> omega

theorem roundDiv_one (number : Nat) : roundDiv number 1 = number := by
  simp [roundDiv, Nat.mod_one]

/-! ## Exponents -/

theorem pow_toNat_div (base : ℚ) (isSome : base ≠ 0) (exponent : Int) :
    base ^ exponent.toNat / base ^ (-exponent).toNat = base ^ exponent := by
  rw [← zpow_natCast, ← zpow_natCast, ← zpow_sub₀ isSome]
  congr 1
  omega

theorem scaleDown_pos (numerator : Nat) (isPos : 0 < denominator) (exponent : Int) :
    0 < (scaleDown numerator denominator exponent).2 :=
  Nat.mul_pos isPos (Nat.pow_pos (by decide))

theorem scaleDown_value (numerator denominator : Nat) (exponent : Int) :
    ((scaleDown numerator denominator exponent).1 : ℚ) /
        (scaleDown numerator denominator exponent).2 =
      numerator / denominator / 2 ^ exponent := by
  rw [← pow_toNat_div 2 (by norm_num)]
  simp only [scaleDown, Nat.pow_eq, Nat.cast_mul, Nat.cast_pow, Nat.cast_ofNat]
  rw [div_div_eq_mul_div, mul_div_mul_comm, mul_div_assoc]

/-- The logarithms of two numbers bound the quotient of the numbers. -/
theorem quotient_bounds (isSome : 0 < numerator) (isPos : 0 < denominator) :
    (2 : ℚ) ^ ((Nat.log2 numerator : Int) - Nat.log2 denominator - 1) < numerator / denominator ∧
      (numerator : ℚ) / denominator <
        2 ^ ((Nat.log2 numerator : Int) - Nat.log2 denominator + 1) := by
  have top : (2 : ℚ) ^ Nat.log2 numerator ≤ numerator := by
    exact_mod_cast Nat.log2_self_le isSome.ne'
  have topBelow : (numerator : ℚ) < 2 ^ (Nat.log2 numerator + 1) := by
    exact_mod_cast Nat.lt_log2_self
  have base : (2 : ℚ) ^ Nat.log2 denominator ≤ denominator := by
    exact_mod_cast Nat.log2_self_le isPos.ne'
  have baseBelow : (denominator : ℚ) < 2 ^ (Nat.log2 denominator + 1) := by
    exact_mod_cast Nat.lt_log2_self
  constructor
  · rw [sub_sub, zpow_sub₀ (by norm_num), zpow_natCast,
      div_lt_div_iff₀ (by positivity) (by positivity)]
    exact mul_lt_mul_of_le_of_lt_of_pos_of_nonneg top (by exact_mod_cast baseBelow) (by positivity)
      (by positivity)
  · rw [sub_add_eq_add_sub, zpow_sub₀ (by norm_num), zpow_natCast,
      div_lt_div_iff₀ (by positivity) (by positivity)]
    exact mul_lt_mul_of_lt_of_le_of_nonneg_of_pos (by exact_mod_cast topBelow) base (by positivity)
      (by positivity)

theorem log_eq {base : Nat} {quotient : ℚ} {exponent : Int} (isBase : 1 < base)
    (isAbove : (base : ℚ) ^ exponent ≤ quotient)
    (isBelow : quotient < (base : ℚ) ^ (exponent + 1)) :
    Int.log base quotient = exponent := by
  have basePos : (0 : ℚ) < base := by exact_mod_cast Nat.zero_lt_of_lt isBase
  have isPos : 0 < quotient := lt_of_lt_of_le (zpow_pos basePos _) isAbove
  have atLeast := (Int.zpow_le_iff_le_log isBase isPos).1 isAbove
  have below := (Int.lt_zpow_iff_log_lt isBase isPos).1 isBelow
  omega

/-- The exponent depends on the value of the quotient alone. -/
theorem exponentFor_eq (isSome : 0 < numerator) (isPos : 0 < denominator) :
    exponentFor numerator denominator =
      max leastExponent (Int.log 2 ((numerator : ℚ) / denominator) - 52) := by
  obtain ⟨above, below⟩ := quotient_bounds isSome isPos
  set guess : Int := (Nat.log2 numerator : Int) - (Nat.log2 denominator : Int) - 52 with isGuess
  rw [show (Nat.log2 numerator : Int) - Nat.log2 denominator = guess + 52 by omega] at above below
  have basePos := scaleDown_pos numerator isPos guess
  have tooLow : (scaleDown numerator denominator guess).1 <
        (scaleDown numerator denominator guess).2 * Nat.pow 2 52 ↔
      (numerator : ℚ) / denominator < 2 ^ (guess + 52) := by
    rw [add_comm, zpow_add₀ (by norm_num), ← div_lt_iff₀ (by positivity), ← scaleDown_value,
      div_lt_iff₀ (by exact_mod_cast basePos), mul_comm]
    norm_cast
  unfold exponentFor
  dsimp only
  rw [← isGuess]
  congr 1
  split_ifs with isLow
  · rw [log_eq (by decide) above.le (by simpa using tooLow.1 isLow)]
    omega
  · rw [log_eq (by decide) (not_lt.1 fun isBelow => isLow (tooLow.2 isBelow)) below]
    omega

/-! ## Rounded quotients -/

/-- The number of a rounded mantissa; one that has become too long is halved. -/
def ofRounded (negative : Bool) (mantissa : Nat) (exponent : Int) : Binary64 :=
  if mantissa = Nat.pow 2 53 then
    if greatestExponent < exponent + 1 then .infinite negative
    else .finite negative (Nat.pow 2 52) (exponent + 1)
  else if greatestExponent < exponent then .infinite negative
  else .finite negative mantissa exponent

theorem ofRatio_eq (negative : Bool) (isSome : numerator ≠ 0) (denominator : Nat) :
    ofRatio negative numerator denominator =
      ofRounded negative
        (roundDiv (scaleDown numerator denominator (exponentFor numerator denominator)).1
          (scaleDown numerator denominator (exponentFor numerator denominator)).2)
        (exponentFor numerator denominator) := by
  unfold ofRatio ofRounded
  rw [if_neg (show ¬(numerator == 0) = true by simpa using isSome)]
  extract_lets exponent
  rcases scaleDown numerator denominator exponent with ⟨scaled, base⟩
  by_cases isLong : roundDiv scaled base = Nat.pow 2 53
  · simp only [isLong, beq_self_eq_true, if_true]
    rfl
  · simp only [isLong, beq_iff_eq, if_false]
    rfl

/-- Rounding depends on the value of the quotient alone. -/
theorem ofRatio_congr (negative : Bool) (isPos : 0 < denominator) (isPosToo : 0 < otherDenominator)
    (same : (numerator : ℚ) / denominator = otherNumerator / otherDenominator) :
    ofRatio negative numerator denominator = ofRatio negative otherNumerator otherDenominator := by
  have noneIff : numerator = 0 ↔ otherNumerator = 0 := by
    have zeroIff := congrArg (· = 0) same
    simpa [isPos.ne', isPosToo.ne'] using zeroIff
  by_cases isNone : numerator = 0
  · simp [ofRatio, isNone, noneIff.1 isNone]
  have isSome : otherNumerator ≠ 0 := fun isZero => isNone (noneIff.2 isZero)
  have exponents : exponentFor numerator denominator =
      exponentFor otherNumerator otherDenominator := by
    rw [exponentFor_eq (Nat.pos_of_ne_zero isNone) isPos,
      exponentFor_eq (Nat.pos_of_ne_zero isSome) isPosToo, same]
  have mantissas (exponent : Int) :
      roundDiv (scaleDown numerator denominator exponent).1
          (scaleDown numerator denominator exponent).2 =
        roundDiv (scaleDown otherNumerator otherDenominator exponent).1
          (scaleDown otherNumerator otherDenominator exponent).2 :=
    roundDiv_congr (scaleDown_pos _ isPos _) (scaleDown_pos _ isPosToo _)
      (by rw [scaleDown_value, scaleDown_value, same])
  rw [ofRatio_eq _ isNone, ofRatio_eq _ isSome, exponents, mantissas]

theorem isCanonical_zero (negative : Bool) : (zero negative).IsCanonical :=
  ⟨by decide, by decide, by decide, Or.inr rfl⟩

theorem isCanonical_ofRounded (negative : Bool) {mantissa : Nat} {exponent : Int}
    (fits : mantissa ≤ 2 ^ 53) (isAbove : leastExponent ≤ exponent)
    (isFull : 2 ^ 52 ≤ mantissa ∨ exponent = leastExponent) :
    (ofRounded negative mantissa exponent).IsCanonical := by
  unfold ofRounded
  split_ifs with isLong isLarge isLarge
  · trivial
  · exact ⟨by norm_num, by omega, by omega, Or.inl (by norm_num)⟩
  · trivial
  · refine ⟨lt_of_le_of_ne fits isLong, isAbove, by omega, isFull⟩

/-- What rounding gives is in canonical form. -/
theorem isCanonical_ofRatio (negative : Bool) (numerator : Nat) (isPos : 0 < denominator) :
    (ofRatio negative numerator denominator).IsCanonical := by
  by_cases isNone : numerator = 0
  · simpa [ofRatio, isNone] using isCanonical_zero negative
  have quotientPos : (0 : ℚ) < numerator / denominator := by
    have := Nat.pos_of_ne_zero isNone
    positivity
  rw [ofRatio_eq _ isNone]
  have isExponent := exponentFor_eq (Nat.pos_of_ne_zero isNone) isPos
  set exponent := exponentFor numerator denominator
  have basePos := scaleDown_pos numerator isPos exponent
  have basePosQ : (0 : ℚ) < (scaleDown numerator denominator exponent).2 := by
    exact_mod_cast basePos
  refine isCanonical_ofRounded negative (roundDiv_le basePos ?_) (by omega) ?_
  · have isBelow : ((scaleDown numerator denominator exponent).1 : ℚ) /
        (scaleDown numerator denominator exponent).2 ≤ 2 ^ 53 := by
      rw [scaleDown_value, div_le_iff₀ (by positivity), ← zpow_natCast, ← zpow_add₀ (by norm_num)]
      calc (numerator : ℚ) / denominator
          ≤ 2 ^ (Int.log 2 ((numerator : ℚ) / denominator) + 1) :=
            (Int.lt_zpow_succ_log_self (by decide) _).le
        _ ≤ 2 ^ (((53 : Nat) : Int) + exponent) := zpow_le_zpow_right₀ (by norm_num) (by omega)
    rw [div_le_iff₀ basePosQ] at isBelow
    exact_mod_cast isBelow
  · by_cases isLeast : exponent = leastExponent
    · exact Or.inr isLeast
    refine Or.inl (le_roundDiv basePos ?_)
    have isAbove : 2 ^ 52 ≤ ((scaleDown numerator denominator exponent).1 : ℚ) /
        (scaleDown numerator denominator exponent).2 := by
      rw [scaleDown_value, le_div_iff₀ (by positivity), ← zpow_natCast, ← zpow_add₀ (by norm_num)]
      calc (2 : ℚ) ^ (((52 : Nat) : Int) + exponent)
          = 2 ^ Int.log 2 ((numerator : ℚ) / denominator) := by
            congr 1
            omega
        _ ≤ numerator / denominator := Int.zpow_log_le_self (by decide) quotientPos
    rw [le_div_iff₀ basePosQ] at isAbove
    exact_mod_cast isAbove

/-- A number in canonical form is the rounding of its own value. -/
theorem ofRatio_eq_finite {negative : Bool} {mantissa : Nat} {exponent : Int}
    (isCanonical : (finite negative mantissa exponent).IsCanonical) (isPos : 0 < denominator)
    (same : (numerator : ℚ) / denominator = mantissa * 2 ^ exponent) :
    ofRatio negative numerator denominator = .finite negative mantissa exponent := by
  obtain ⟨fits, isAbove, isBelow, isFull⟩ := isCanonical
  by_cases isNone : mantissa = 0
  · have isLeast : exponent = leastExponent := isFull.resolve_left (by omega)
    have isZero : numerator = 0 := by simpa [isNone, isPos.ne'] using same
    simp [ofRatio, zero, isZero, isNone, isLeast]
  have mantissaPos : (0 : ℚ) < mantissa := by exact_mod_cast Nat.pos_of_ne_zero isNone
  have isSome : numerator ≠ 0 := by
    rintro rfl
    have : (0 : ℚ) < mantissa * 2 ^ exponent := by positivity
    simp [← same] at this
  have isExponent : exponentFor numerator denominator = exponent := by
    rw [exponentFor_eq (Nat.pos_of_ne_zero isSome) isPos, same]
    have below : (mantissa : ℚ) * 2 ^ exponent < 2 ^ (exponent + 53) := by
      rw [add_comm, zpow_add₀ (by norm_num)]
      exact mul_lt_mul_of_pos_right (by exact_mod_cast fits) (by positivity)
    rcases isFull with isFull | isLeast
    · have above : (2 : ℚ) ^ (exponent + 52) ≤ mantissa * 2 ^ exponent := by
        rw [add_comm, zpow_add₀ (by norm_num)]
        exact mul_le_mul_of_nonneg_right (by exact_mod_cast isFull) (by positivity)
      rw [log_eq (by decide) above (by simpa [add_assoc] using below)]
      omega
    · have small := (Int.lt_zpow_iff_log_lt (b := 2) (by decide)
        (by positivity : (0 : ℚ) < mantissa * 2 ^ exponent)).1 (by exact_mod_cast below)
      omega
  have isMantissa : roundDiv (scaleDown numerator denominator exponent).1
      (scaleDown numerator denominator exponent).2 = mantissa := by
    rw [← roundDiv_one mantissa]
    refine roundDiv_congr (scaleDown_pos _ isPos _) Nat.one_pos ?_
    rw [scaleDown_value, same, mul_div_assoc, div_self (by positivity)]
    simp
  rw [ofRatio_eq _ isSome, isExponent, isMantissa, ofRounded, if_neg, if_neg]
  · omega
  · exact fits.ne

/-! ## Decimals -/

/-- The digits before the point of a decimal are counted by a logarithm of its value. -/
theorem size_eq_log {digits : Nat} (isSome : digits ≠ 0) (exponent : Int) :
    (decimalLength digits : Int) + exponent = Int.log 10 ((digits : ℚ) * 10 ^ exponent) + 1 := by
  have fits : digits < 10 ^ decimalLength digits :=
    (Nat.length_toDigits_le_iff (by decide) Nat.length_toDigits_pos).1 le_rfl
  have isFull : 10 ^ (decimalLength digits - 1) ≤ digits := by
    by_cases isSingle : decimalLength digits = 1
    · rw [isSingle]
      exact Nat.pos_of_ne_zero isSome
    by_contra isSmall
    have some : 0 < decimalLength digits := Nat.length_toDigits_pos
    have shorter := (Nat.length_toDigits_le_iff (b := 10) (k := decimalLength digits - 1)
      (by decide) (by omega)).2 (not_le.1 isSmall)
    unfold decimalLength at *
    omega
  have some : 0 < decimalLength digits := Nat.length_toDigits_pos
  have isLog : Int.log 10 ((digits : ℚ) * 10 ^ exponent) =
      (decimalLength digits : Int) - 1 + exponent := by
    refine log_eq (by decide) ?_ ?_
    · rw [zpow_add₀ (by norm_num)]
      refine mul_le_mul_of_nonneg_right ?_ (by positivity)
      rw [show (decimalLength digits : Int) - 1 = (decimalLength digits - 1 : Nat) by omega,
        zpow_natCast]
      exact_mod_cast isFull
    · rw [add_right_comm, zpow_add₀ (by norm_num)]
      refine mul_lt_mul_of_pos_right ?_ (by positivity)
      rw [sub_add_cancel, zpow_natCast]
      exact_mod_cast fits
  omega

theorem ofDecimal_zero (negative : Bool) (exponent : Int) :
    ofDecimal negative 0 exponent = zero negative := by
  simp [ofDecimal]

/-- The quotient that a decimal is read as has the value of the decimal. -/
theorem decimal_value (digits : Nat) (exponent : Int) :
    ((digits * Nat.pow 10 exponent.toNat : Nat) : ℚ) / (Nat.pow 10 (-exponent).toNat : Nat) =
      digits * 10 ^ exponent := by
  rw [← pow_toNat_div 10 (by norm_num)]
  simp only [Nat.pow_eq, Nat.cast_mul, Nat.cast_pow, Nat.cast_ofNat, mul_div_assoc]

theorem ofDecimal_eq (negative : Bool) {digits : Nat} (isSome : digits ≠ 0) (exponent : Int) :
    ofDecimal negative digits exponent =
      if Int.log 10 ((digits : ℚ) * 10 ^ exponent) + 1 < -330 then zero negative
      else if 310 < Int.log 10 ((digits : ℚ) * 10 ^ exponent) + 1 then .infinite negative
      else ofRatio negative (digits * Nat.pow 10 exponent.toNat)
        (Nat.pow 10 (-exponent).toNat) := by
  simp only [ofDecimal, size_eq_log isSome, beq_false_of_ne isSome, Bool.false_or,
    decide_eq_true_eq]

/-- Reading a decimal depends on its value alone. -/
theorem ofDecimal_congr (negative : Bool) {digits otherDigits : Nat} {exponent otherExponent : Int}
    (same : (digits : ℚ) * 10 ^ exponent = otherDigits * 10 ^ otherExponent) :
    ofDecimal negative digits exponent = ofDecimal negative otherDigits otherExponent := by
  by_cases isNone : digits = 0
  · have isNoneToo : otherDigits = 0 := by simpa [isNone, zpow_ne_zero] using same.symm
    rw [isNone, isNoneToo, ofDecimal_zero, ofDecimal_zero]
  have isSome : otherDigits ≠ 0 := by
    rintro rfl
    simp [isNone, zpow_ne_zero] at same
  have tenPos (power : Nat) : 0 < Nat.pow 10 power := Nat.pow_pos (by decide)
  rw [ofDecimal_eq negative isNone, ofDecimal_eq negative isSome, same,
    ofRatio_congr negative (tenPos _) (tenPos _)
      ((decimal_value digits exponent).trans (same.trans (decimal_value _ _).symm))]

theorem isCanonical_ofDecimal (negative : Bool) (digits : Nat) (exponent : Int) :
    (ofDecimal negative digits exponent).IsCanonical := by
  unfold ofDecimal
  dsimp only
  split_ifs
  · exact isCanonical_zero negative
  · trivial
  · exact isCanonical_ofRatio negative _ (Nat.pow_pos (by decide))

/-- A decimal that is a number in canonical form is read as that number. -/
theorem ofDecimal_eq_finite {negative : Bool} {mantissa digits : Nat} {exponent tens : Int}
    (isCanonical : (finite negative mantissa exponent).IsCanonical)
    (same : (digits : ℚ) * 10 ^ tens = mantissa * 2 ^ exponent) :
    ofDecimal negative digits tens = .finite negative mantissa exponent := by
  have rounded := ofRatio_eq_finite isCanonical
    (show 0 < Nat.pow 10 (-tens).toNat from Nat.pow_pos (by decide))
    ((decimal_value digits tens).trans same)
  obtain ⟨fits, isAbove, isBelow, isFull⟩ := isCanonical
  by_cases isNone : digits = 0
  · rw [isNone, ofDecimal_zero, ← rounded, isNone]
    simp [ofRatio]
  have isPos : (0 : ℚ) < mantissa * 2 ^ exponent := by
    have := Nat.pos_of_ne_zero isNone
    rw [← same]
    positivity
  have isSome : 0 < mantissa := Nat.pos_of_ne_zero (by rintro rfl; simp at isPos)
  have greatest : ((Nat.pow 2 1024 : Nat) : ℚ) ≤ (Nat.pow 10 310 : Nat) :=
    Nat.cast_le.2 (by decide +kernel)
  have least : ((Nat.pow 2 1074 : Nat) : ℚ) ≤ (Nat.pow 10 331 : Nat) :=
    Nat.cast_le.2 (by decide +kernel)
  rw [ofDecimal_eq negative isNone, same, if_neg, if_neg, rounded]
  · have small : (mantissa : ℚ) * 2 ^ exponent < (10 : Nat) ^ (310 : Int) := by
      calc (mantissa : ℚ) * 2 ^ exponent
          < 2 ^ 53 * 2 ^ exponent :=
            mul_lt_mul_of_pos_right (by exact_mod_cast fits) (by positivity)
        _ ≤ 2 ^ 53 * 2 ^ greatestExponent :=
            mul_le_mul_of_nonneg_left (zpow_le_zpow_right₀ (by norm_num) isBelow) (by positivity)
        _ = 2 ^ 1024 := by
            rw [← zpow_natCast, ← zpow_natCast, ← zpow_add₀ (by norm_num)]
            rfl
        _ ≤ (10 : Nat) ^ (310 : Int) := by
            simpa only [Nat.pow_eq, Nat.cast_pow, Nat.cast_ofNat, zpow_ofNat] using greatest
    have := (Int.lt_zpow_iff_log_lt (by decide) isPos).1 small
    omega
  · have large : ((10 : Nat) : ℚ) ^ (-331 : Int) ≤ mantissa * 2 ^ exponent := by
      calc ((10 : Nat) : ℚ) ^ (-331 : Int)
          = (10 ^ 331)⁻¹ := by
            rw [zpow_neg]
            rfl
        _ ≤ (2 ^ 1074)⁻¹ :=
            inv_anti₀ (by positivity)
              (by simpa only [Nat.pow_eq, Nat.cast_pow, Nat.cast_ofNat] using least)
        _ = 1 * 2 ^ leastExponent := by
            rw [one_mul, leastExponent, zpow_neg]
            rfl
        _ ≤ mantissa * 2 ^ leastExponent :=
            mul_le_mul_of_nonneg_right (by exact_mod_cast isSome) (by positivity)
        _ ≤ mantissa * 2 ^ exponent :=
            mul_le_mul_of_nonneg_left (zpow_le_zpow_right₀ (by norm_num) isAbove) (by positivity)
    have := (Int.zpow_le_iff_le_log (by decide) isPos).1 large
    omega

/-- A quotient is rounded in the same way under both signs. -/
theorem ofRatio_sign {negative : Bool} {mantissa : Nat} {exponent : Int} (other : Bool)
    (rounded : ofRatio negative numerator denominator = .finite negative mantissa exponent) :
    ofRatio other numerator denominator = .finite other mantissa exponent := by
  by_cases isNone : numerator = 0
  · simpa [ofRatio, isNone, zero] using rounded
  · rw [ofRatio_eq _ isNone, ofRounded] at rounded ⊢
    split_ifs at rounded ⊢ <;> simpa using rounded

/-- A decimal is read as the same number under both signs. -/
theorem ofDecimal_sign {negative : Bool} {mantissa digits : Nat} {exponent tens : Int}
    (other : Bool) (read : ofDecimal negative digits tens = .finite negative mantissa exponent) :
    ofDecimal other digits tens = .finite other mantissa exponent := by
  by_cases isNone : digits = 0
  · simpa [isNone, ofDecimal_zero, zero] using read
  · rw [ofDecimal_eq _ isNone] at read ⊢
    split_ifs at read ⊢
    · simpa [zero] using read
    · exact ofRatio_sign other read

end DocHarvest.Binary64
