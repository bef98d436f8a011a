import DocHarvest.Number.Shortest
import DocHarvest.Proofs.Number.Rounding

/-!
# The text of numbers

The text of a finite number has digits before its point and digits after it, an exponent, or both.
However it is laid out, it stands for a decimal of the same value as the shortest one that reads
back, so reading it gives the number.
-/

namespace DocHarvest.Binary64

/-! ## Shortest decimals -/

/-- The value of a decimal. -/
def Decimal.value (decimal : Decimal) : ℚ :=
  decimal.digits * 10 ^ decimal.exponent

variable {mantissa : Nat} {exponent : Int}

theorem exactDecimal_value (mantissa : Nat) (exponent : Int) :
    (exactDecimal mantissa exponent).value = mantissa * 2 ^ exponent := by
  unfold exactDecimal Decimal.value
  split
  · rename_i isWhole
    simp only [Nat.pow_eq, Nat.cast_mul, Nat.cast_pow, Nat.cast_ofNat, zpow_zero, mul_one,
      ← zpow_natCast, Int.toNat_of_nonneg isWhole]
  · rename_i isSplit
    simp only [Nat.pow_eq, Nat.cast_mul, Nat.cast_pow, Nat.cast_ofNat, ← zpow_natCast]
    rw [Int.toNat_of_nonneg (by omega), show (10 : ℚ) = 5 * 2 by norm_num, mul_zpow, mul_assoc,
      ← mul_assoc (5 ^ (-exponent)), ← zpow_add₀ (by norm_num)]
    simp

theorem readsBack_of_shortestFrom {count fuel : Nat} {decimal : Decimal}
    (found : shortestFrom mantissa exponent count fuel = some decimal) :
    ofDecimal false decimal.digits decimal.exponent = .finite false mantissa exponent := by
  induction fuel generalizing count with
  | zero => cases found
  | succ fuel ih =>
      unfold shortestFrom at found
      split at found
      rename_i numerator denominator ratio
      dsimp only at found
      split at found
      · rename_i isFound
        cases found
        simpa using List.find?_some isFound
      · exact ih found

/-- The shortest decimal of a number in canonical form reads back. -/
theorem ofDecimal_shortest {negative : Bool}
    (isCanonical : (finite negative mantissa exponent).IsCanonical) :
    ofDecimal negative (shortest mantissa exponent).digits (shortest mantissa exponent).exponent =
      .finite negative mantissa exponent := by
  unfold shortest
  cases found : shortestFrom mantissa exponent 1 17 with
  | none => exact ofDecimal_eq_finite isCanonical (exactDecimal_value mantissa exponent)
  | some decimal => exact ofDecimal_sign negative (readsBack_of_shortestFrom found)

theorem digits_shortest_pos {negative : Bool} (isSome : mantissa ≠ 0)
    (isCanonical : (finite negative mantissa exponent).IsCanonical) :
    0 < (shortest mantissa exponent).digits := by
  refine Nat.pos_of_ne_zero fun isNone => isSome ?_
  have read := ofDecimal_shortest isCanonical
  rw [isNone, ofDecimal_zero] at read
  cases read
  rfl

/-! ## Numerals -/

/-- Digits without a zero in front. -/
structure IsNumeral (digits : List Char) : Prop where
  isSome : digits ≠ []
  head : digits.head? ≠ some '0'
  all : ∀ digit ∈ digits, digit.isDigit

theorem ofDigitChars_lt {digits : List Char} (all : ∀ digit ∈ digits, digit.isDigit)
    (start : Nat) : Nat.ofDigitChars 10 digits start < (start + 1) * 10 ^ digits.length := by
  induction digits generalizing start with
  | nil => simp
  | cons digit rest ih =>
      have small := Char.isDigit_iff_toNat.1 (all digit List.mem_cons_self)
      have later := ih (fun digit isMember => all digit (List.mem_cons_of_mem _ isMember))
        (10 * start + (digit.toNat - '0'.toNat))
      rw [Nat.ofDigitChars_cons, List.length_cons, Nat.pow_succ]
      refine lt_of_lt_of_le later ?_
      rw [mul_comm (10 ^ _) 10, ← mul_assoc]
      refine Nat.mul_le_mul_right _ ?_
      simp only [Char.reduceToNat] at small ⊢
      omega

theorem isNumeral_toDigits {number : Nat} (isPos : 0 < number) :
    IsNumeral (Nat.toDigits 10 number) where
  isSome := Nat.toDigits_ne_nil
  head := by
    intro isZero
    obtain ⟨rest, isRest⟩ := List.head?_eq_some_iff.1 isZero
    have all : ∀ digit ∈ rest, digit.isDigit := fun digit isMember =>
      Nat.isDigit_of_mem_toDigits (by decide) (by decide)
        (isRest ▸ List.mem_cons_of_mem _ isMember)
    have value : Nat.ofDigitChars 10 rest 0 = number := by
      have read := Nat.ofDigitChars_ten_toDigits (n := number)
      rw [isRest, Nat.ofDigitChars_cons] at read
      simpa using read
    -- a shorter sequence of digits would have been enough
    have fits : number < 10 ^ rest.length := by
      simpa [value] using ofDigitChars_lt all 0
    have isShort : 0 < rest.length := by
      refine Nat.pos_of_ne_zero fun isNone => ?_
      rw [isNone] at fits
      omega
    have := (Nat.length_toDigits_le_iff (by decide) isShort).2 fits
    rw [isRest, List.length_cons] at this
    omega
  all _ isMember := Nat.isDigit_of_mem_toDigits (by decide) (by decide) isMember

/-- Digits without a zero in front stay so without the zeros at their end. -/
theorem isNumeral_trimZeros {digits : List Char} (numeral : IsNumeral digits) :
    IsNumeral (trimZeros digits) ∧
      ∃ zeros, digits = trimZeros digits ++ List.replicate zeros '0' := by
  obtain ⟨isSome, head, all⟩ := numeral
  have zeros : ∀ digit ∈ (digits.reverse.takeWhile (· == '0')).reverse, digit = '0' := by
    intro digit isMember
    simpa using List.all_eq_true.1 List.all_takeWhile _ (List.mem_reverse.1 isMember)
  have parts : digits = (digits.reverse.dropWhile (· == '0')).reverse ++
      (digits.reverse.takeWhile (· == '0')).reverse := by
    rw [← List.reverse_append, List.takeWhile_append_dropWhile, List.reverse_reverse]
  unfold trimZeros
  split
  · rename_i isNone
    rw [isNone, List.nil_append] at parts
    rcases List.exists_cons_of_ne_nil isSome with ⟨first, rest, isDigits⟩
    refine absurd ?_ head
    rw [isDigits, List.head?_cons, zeros first (parts ▸ isDigits ▸ List.mem_cons_self)]
  · rename_i keptSome
    refine ⟨⟨keptSome, ?_, fun digit isMember => all digit ?_⟩, _,
      parts.trans (congrArg _ (List.eq_replicate_of_mem zeros))⟩
    · rwa [parts, List.head?_append_of_ne_nil _ keptSome] at head
    · rw [parts]
      exact List.mem_append_left _ isMember

/-! ## Layouts -/

/-- The parts of the text of a number. -/
structure NumberText where
  whole : List Char
  /-- The digits after the point; without any there is no point. -/
  fraction : List Char
  /-- The exponent, with the least number of digits that it is written with. -/
  exponent : Option (Nat × Int)

namespace NumberText

/-- The point with the digits after it. -/
def pointed (text : NumberText) : List Char :=
  if text.fraction.isEmpty then [] else '.' :: text.fraction

/-- The mark of an exponent with the exponent. -/
def marked (text : NumberText) : List Char :=
  match text.exponent with
  | none => []
  | some (width, exponent) => 'e' :: exponentText width exponent

/-- The text as a whole. -/
def toChars (text : NumberText) : List Char :=
  text.whole ++ text.pointed ++ text.marked

/-- The decimal that a text stands for. -/
def decimal (text : NumberText) : Decimal where
  digits := Nat.ofDigitChars 10 (text.whole ++ text.fraction) 0
  exponent := (text.exponent.map Prod.snd).getD 0 - text.fraction.length

/-- A text that is no integer and has no zeros in front that it could do without. -/
structure IsSound (text : NumberText) : Prop where
  whole : text.whole = ['0'] ∨ IsNumeral text.whole
  fraction : ∀ digit ∈ text.fraction, digit.isDigit
  isReal : text.fraction ≠ [] ∨ text.exponent.isSome

end NumberText

variable {digits : List Char}

/-- The text of a number that is laid out positionally. -/
theorem positional_text (numeral : IsNumeral digits) (scale : Int) :
    ∃ text : NumberText, text.IsSound ∧ positional digits scale = text.toChars ∧
      text.decimal.value = Nat.ofDigitChars 10 digits 0 * 10 ^ (scale + 1 - digits.length) := by
  unfold positional
  split
  · rename_i isSmall
    refine ⟨⟨['0'], List.replicate ((-scale).toNat - 1) '0' ++ digits, none⟩,
      ⟨Or.inl rfl, ?_, Or.inl (by simp [numeral.isSome])⟩, ?_, ?_⟩
    · intro digit isMember
      rcases List.mem_append.1 isMember with isZero | isMember
      · rw [List.eq_of_mem_replicate isZero]
        rfl
      · exact numeral.all digit isMember
    · simp [NumberText.toChars, NumberText.pointed, NumberText.marked, numeral.isSome]
    · have read : Nat.ofDigitChars 10
          (['0'] ++ (List.replicate ((-scale).toNat - 1) '0' ++ digits)) 0 =
            Nat.ofDigitChars 10 digits 0 := by
        simp [Nat.ofDigitChars_cons, Nat.ofDigitChars_append]
      simp only [NumberText.decimal, Decimal.value, read, List.length_append, List.length_replicate]
      congr 2
      simp
      omega
  · rename_i isLarge
    by_cases isWhole : digits.length ≤ scale.toNat + 1
    · have padded : (digits ++ List.replicate (scale.toNat + 1 - digits.length) '0').length =
          scale.toNat + 1 := by
        rw [List.length_append, List.length_replicate]
        omega
      refine ⟨⟨digits ++ List.replicate (scale.toNat + 1 - digits.length) '0', ['0'], none⟩,
        ⟨Or.inr ⟨by simp [numeral.isSome], ?_, ?_⟩, by simp, Or.inl (by simp)⟩, ?_, ?_⟩
      · rw [List.head?_append_of_ne_nil _ numeral.isSome]
        exact numeral.head
      · intro digit isMember
        rcases List.mem_append.1 isMember with isMember | isZero
        · exact numeral.all digit isMember
        · rw [List.eq_of_mem_replicate isZero]
          rfl
      · dsimp only
        rw [List.take_of_length_le padded.le, List.drop_eq_nil_of_le padded.le]
        simp [NumberText.toChars, NumberText.pointed, NumberText.marked]
      · have read : Nat.ofDigitChars 10
            (digits ++ List.replicate (scale.toNat + 1 - digits.length) '0' ++ ['0']) 0 =
            10 ^ (scale.toNat + 1 - digits.length) * Nat.ofDigitChars 10 digits 0 * 10 := by
          simp [Nat.ofDigitChars_cons, Nat.ofDigitChars_append, mul_comm]
        have power : scale + 1 - digits.length = (scale.toNat + 1 - digits.length : Nat) := by omega
        simp only [NumberText.decimal, Decimal.value, read, power, zpow_natCast]
        simp
        field_simp
    · refine ⟨⟨digits.take (scale.toNat + 1), digits.drop (scale.toNat + 1), none⟩,
        ⟨Or.inr ⟨?_, ?_, ?_⟩, ?_, Or.inl ?_⟩, ?_, ?_⟩
      · simp [numeral.isSome]
      · rw [List.head?_take, if_neg (by omega)]
        exact numeral.head
      · exact fun digit isMember => numeral.all digit (List.mem_of_mem_take isMember)
      · exact fun digit isMember => numeral.all digit (List.mem_of_mem_drop isMember)
      · simpa using isWhole
      · dsimp only
        have isLong : (digits.drop (scale.toNat + 1)).isEmpty = false := by
          simpa using isWhole
        rw [Nat.sub_eq_zero_of_le (by omega), List.replicate_zero, List.append_nil, isLong]
        simp [NumberText.toChars, NumberText.pointed, NumberText.marked, isLong]
      · simp only [NumberText.decimal, Decimal.value, List.take_append_drop, List.length_drop]
        congr 2
        simp
        omega

/-- The text of a number that is laid out with an exponent. -/
theorem scientific_text (numeral : IsNumeral digits) (format : NumberFormat) (scale : Int) :
    ∃ text : NumberText, text.IsSound ∧ scientific format digits scale = text.toChars ∧
      text.decimal.value = Nat.ofDigitChars 10 digits 0 * 10 ^ (scale + 1 - digits.length) := by
  rcases List.exists_cons_of_ne_nil numeral.isSome with ⟨first, rest, rfl⟩
  refine ⟨⟨[first], rest, some (format.exponentWidth, scale)⟩,
    ⟨Or.inr ⟨by simp, by simpa using numeral.head, ?_⟩, ?_, Or.inr rfl⟩, ?_, ?_⟩
  · simpa using numeral.all first List.mem_cons_self
  · exact fun digit isMember => numeral.all digit (List.mem_cons_of_mem _ isMember)
  · simp [scientific, NumberText.toChars, NumberText.pointed, NumberText.marked]
  · simp only [NumberText.decimal, Decimal.value, List.singleton_append, List.length_cons]
    congr 2
    simp

/-- The text of a finite number stands for a decimal that is read as the number. -/
theorem render_finite (format : NumberFormat) {negative : Bool}
    (isCanonical : (finite negative mantissa exponent).IsCanonical) :
    ∃ text : NumberText, text.IsSound ∧
      ((finite negative mantissa exponent).render format).toList =
        (if negative then ['-'] else []) ++ text.toChars ∧
      ofDecimal negative text.decimal.digits text.decimal.exponent =
        .finite negative mantissa exponent := by
  by_cases isNone : mantissa = 0
  · refine ⟨⟨['0'], ['0'], none⟩, ⟨Or.inl rfl, by simp, Or.inl (by simp)⟩, ?_, ?_⟩
    · simp [render, isNone, NumberText.toChars, NumberText.pointed, NumberText.marked]
    · refine ofDecimal_eq_finite isCanonical ?_
      simp [NumberText.decimal, isNone, Nat.ofDigitChars_cons]
  obtain ⟨numeral, zeros, written⟩ :=
    isNumeral_trimZeros (isNumeral_toDigits (digits_shortest_pos isNone isCanonical))
  have read := ofDecimal_shortest isCanonical
  set decimal := shortest mantissa exponent with isShortest
  set digits := trimZeros (Nat.toDigits 10 decimal.digits) with isDigits
  set scale : Int := decimal.exponent + ((Nat.toDigits 10 decimal.digits).length : Int) - 1
    with isScale
  have value : (Nat.ofDigitChars 10 digits 0 : ℚ) * 10 ^ (scale + 1 - digits.length) =
      decimal.value := by
    have all : decimal.digits = 10 ^ zeros * Nat.ofDigitChars 10 digits 0 := by
      rw [← Nat.ofDigitChars_ten_toDigits (n := decimal.digits), written,
        Nat.ofDigitChars_append, Nat.ofDigitChars_replicate_zero]
    have power : scale + 1 - digits.length = zeros + decimal.exponent := by
      rw [isScale, written, List.length_append, List.length_replicate]
      push_cast
      ring
    rw [Decimal.value, all, power, zpow_add₀ (by norm_num)]
    push_cast
    rw [zpow_natCast]
    ring
  obtain ⟨text, isSound, isBody, textValue⟩ : ∃ text : NumberText, text.IsSound ∧
      (if scale < format.leastPositional || format.firstScientific ≤ scale then
        scientific format digits scale else positional digits scale) = text.toChars ∧
      text.decimal.value = Nat.ofDigitChars 10 digits 0 * 10 ^ (scale + 1 - digits.length) := by
    split
    · exact scientific_text numeral format scale
    · exact positional_text numeral scale
  refine ⟨text, isSound, ?_, ?_⟩
  · rw [← isBody]
    simp only [render, beq_iff_eq, isNone, if_false, String.toList_ofList]
    rfl
  · rw [ofDecimal_congr negative (textValue.trans value)]
    exact read

end DocHarvest.Binary64
