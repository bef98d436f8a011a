import DocHarvest.Proofs.Number.Rendering
import DocHarvest.Proofs.Text.Cutting
import DocHarvest.Value.Printer
import DocHarvest.Value.Reader

/-!
# Numbers in JSON text

The decimal text of a natural number consists of digits, from which the number can be read back. An
integer that is short enough and a number in canonical form are read back from the text that is
written for them, whatever follows, as long as a number cannot go on there.
-/

namespace DocHarvest

/-! ## Integers in decimal -/

namespace Value

theorem integerText_natCast (number : Nat) :
    (integerText number).toList = Nat.toDigits 10 number := by
  simp [integerText]

theorem isDigit_of_mem_integerText {number : Nat} {character : Char}
    (isMember : character ∈ (integerText number).toList) : character.isDigit := by
  rw [integerText_natCast] at isMember
  exact Nat.isDigit_of_mem_toDigits (by decide) (by decide) isMember

theorem toDigits_inj {first second : Nat}
    (same : Nat.toDigits 10 first = Nat.toDigits 10 second) : first = second := by
  have read := congrArg (fun digits => Nat.ofDigitChars 10 digits 0) same
  simpa using read

end Value

/-! ## Parts of numbers -/

namespace Binary64

theorem exponentText_eq (width : Nat) (exponent : Int) : ∃ digits : List Char, digits ≠ [] ∧
    (∀ digit ∈ digits, digit.isDigit) ∧ Nat.ofDigitChars 10 digits 0 = exponent.natAbs ∧
      exponentText width exponent = (if exponent < 0 then '-' else '+') :: digits := by
  refine ⟨_, ?_, ?_, ?_, rfl⟩
  · simp
  · intro digit isMember
    rcases List.mem_append.1 isMember with isZero | isMember
    · rw [List.eq_of_mem_replicate isZero]
      rfl
    · exact Nat.isDigit_of_mem_toDigits (by decide) (by decide) isMember
  · simp [Nat.ofDigitChars_append]

namespace NumberText

variable {text : NumberText}

theorem IsSound.whole_ne_nil (isSound : text.IsSound) : text.whole ≠ [] := by
  rcases isSound.whole with isZero | numeral
  · simp [isZero]
  · exact numeral.isSome

theorem IsSound.whole_digits (isSound : text.IsSound) : ∀ digit ∈ text.whole, digit.isDigit := by
  rcases isSound.whole with isZero | numeral
  · simp [isZero]
  · exact numeral.all

theorem marked_head (text : NumberText) : ∀ character ∈ text.marked.head?, character = 'e' := by
  unfold marked
  split <;> simp

end NumberText

end Binary64

/-! ## Decimals -/

namespace Numeral

open Binary64

variable {digits : List Char} {text : NumberText}

theorem digitOf?_of_isDigit {digit : Char} (isDigit : digit.isDigit) :
    digitOf? digit = some (digit.toNat - '0'.toNat) := by
  simp [digitOf?, isDigit]

theorem digitsFrom?_eq (all : ∀ digit ∈ digits, digit.isDigit) (start : Nat) :
    digitsFrom? 10 start digits = some (Nat.ofDigitChars 10 digits start) := by
  induction digits generalizing start with
  | nil => simp [digitsFrom?]
  | cons digit rest ih =>
      have isDigit := all digit List.mem_cons_self
      have small := Char.isDigit_iff_toNat.1 isDigit
      rw [digitsFrom?, digitOf?_of_isDigit isDigit, Nat.ofDigitChars_cons, mul_comm 10]
      dsimp only
      rw [if_pos (by simp only [Char.reduceToNat] at small ⊢; omega)]
      exact ih (fun digit isMember => all digit (List.mem_cons_of_mem _ isMember)) _

theorem digits?_eq (isSome : digits ≠ []) (all : ∀ digit ∈ digits, digit.isDigit) :
    digits? 10 digits = some (Nat.ofDigitChars 10 digits 0) := by
  rw [digits?, if_neg (by simpa using isSome), digitsFrom?_eq all]

theorem signed_natAbs (number : Int) : signed (decide (number < 0)) number.natAbs = number := by
  unfold signed
  split
  · rename_i negative
    rw [decide_eq_true_eq] at negative
    rw [Int.ofNat_natAbs_of_nonpos negative.le, neg_neg]
  · rename_i positive
    rw [decide_eq_true_eq] at positive
    exact Int.natAbs_of_nonneg (by omega)

theorem exponent?_marked (text : NumberText) :
    exponent? text.marked = some ((text.exponent.map Prod.snd).getD 0) := by
  unfold NumberText.marked
  split
  · simp [exponent?, *]
  · rename_i width exponent isExponent
    obtain ⟨digits, isSome, all, value, isText⟩ := exponentText_eq width exponent
    have read : (digits? 10 digits).map (signed (decide (exponent < 0))) = some exponent := by
      rw [digits?_eq isSome all, value, Option.map_some, signed_natAbs]
    rw [isText, isExponent]
    by_cases negative : exponent < 0
    · simpa [exponent?, negative, splitSign] using read
    · simpa [exponent?, negative, splitSign] using read

/-- The text of a number is read as the decimal that it stands for. -/
theorem decimalReal?_toChars (isSound : text.IsSound) (negative : Bool) :
    decimalReal? negative text.toChars =
      some (ofDecimal negative text.decimal.digits text.decimal.exponent) := by
  have head : ∀ character ∈ text.marked.head?, character.isDigit = false := by
    intro character isHead
    rw [text.marked_head character isHead]
    rfl
  have isSome : text.whole ++ text.fraction ≠ [] := by simp [isSound.whole_ne_nil]
  have all : ∀ digit ∈ text.whole ++ text.fraction, digit.isDigit :=
    List.forall_mem_append.2 ⟨isSound.whole_digits, isSound.fraction⟩
  rw [NumberText.toChars, List.append_assoc]
  unfold decimalReal?
  by_cases isWhole : text.fraction = []
  · have ends : text.pointed ++ text.marked = text.marked := by simp [NumberText.pointed, isWhole]
    have read := exponent?_marked text
    rw [ends, Text.takeWhile_eq isSound.whole_digits head,
      Text.dropWhile_eq isSound.whole_digits head]
    rw [isWhole, List.append_nil] at isSome all
    cases isMarked : text.marked with
    | nil =>
        rw [isMarked] at read
        simp [digits?_eq isSome all, read, NumberText.decimal, isWhole]
    | cons mark others =>
        obtain rfl := text.marked_head mark (by simp [isMarked])
        rw [isMarked] at read
        simp [digits?_eq isSome all, read, NumberText.decimal, isWhole]
  · have point : text.pointed ++ text.marked = '.' :: (text.fraction ++ text.marked) := by
      simp [NumberText.pointed, isWhole]
    have ends : ∀ character ∈ (text.pointed ++ text.marked).head?, character.isDigit = false := by
      simp [point]
    rw [Text.takeWhile_eq isSound.whole_digits ends, Text.dropWhile_eq isSound.whole_digits ends,
      point]
    simp only [Text.takeWhile_eq isSound.fraction head, Text.dropWhile_eq isSound.fraction head,
      digits?_eq isSome all, exponent?_marked]
    rfl

end Numeral

/-! ## Numbers in front of a text -/

namespace Value

open Binary64

/-- A number does not go on with a text. -/
def EndsNumber (rest : List Char) : Prop :=
  ∀ character ∈ rest.head?,
    character.isDigit = false ∧ character ≠ '.' ∧ character ≠ 'e' ∧ character ≠ 'E'

variable {text : NumberText} {whole rest : List Char}

theorem wholePart?_eq (isWhole : whole = ['0'] ∨ IsNumeral whole)
    (ends : ∀ character ∈ rest.head?, character.isDigit = false) :
    wholePart? (whole ++ rest) = some (whole, rest) := by
  rcases isWhole with rfl | ⟨isSome, head, all⟩
  · rfl
  · rcases List.exists_cons_of_ne_nil isSome with ⟨first, others, rfl⟩
    have later : ∀ digit ∈ others, digit.isDigit := fun digit isMember =>
      all digit (List.mem_cons_of_mem _ isMember)
    rw [List.cons_append]
    unfold wholePart?
    split
    · simp_all
    · simp_all
    · rename_i character others' notZero same
      cases same
      rw [if_pos (all _ List.mem_cons_self), Text.takeWhile_eq later ends,
        Text.dropWhile_eq later ends]

theorem fractionPart_of_ends (ends : ∀ character ∈ rest.head?, character ≠ '.') :
    fractionPart rest = ([], rest) := by
  unfold fractionPart
  split
  · simp at ends
  · rfl

theorem fractionPart_eq (isSound : text.IsSound)
    (ends : ∀ character ∈ rest.head?, character.isDigit = false ∧ character ≠ '.') :
    fractionPart (text.pointed ++ rest) = (text.pointed, rest) := by
  unfold NumberText.pointed
  split
  · exact fractionPart_of_ends fun _ isHead => (ends _ isHead).2
  · rename_i isSome
    have noDigit : ∀ character ∈ rest.head?, character.isDigit = false := fun _ isHead =>
      (ends _ isHead).1
    simp only [List.cons_append, fractionPart]
    rw [Text.takeWhile_eq isSound.fraction noDigit, Text.dropWhile_eq isSound.fraction noDigit,
      if_neg isSome]

theorem exponentPart_of_ends (ends : EndsNumber rest) : exponentPart rest = ([], rest) := by
  cases rest with
  | nil => rfl
  | cons next others =>
      obtain ⟨-, -, noSmall, noLarge⟩ := ends next rfl
      simp [exponentPart, noSmall, noLarge]

theorem exponentPart_eq (text : NumberText) (ends : EndsNumber rest) :
    exponentPart (text.marked ++ rest) = (text.marked, rest) := by
  unfold NumberText.marked
  split
  · exact exponentPart_of_ends ends
  · rename_i width exponent _
    obtain ⟨digits, isSome, all, -, isText⟩ := exponentText_eq width exponent
    have noDigit : ∀ character ∈ rest.head?, character.isDigit = false := fun _ isHead =>
      (ends _ isHead).1
    have isSign : ∀ character ∈ [if exponent < 0 then '-' else '+'],
        (character == '+' || character == '-') = true := by
      split <;> simp
    have noSign : ∀ character ∈ (digits ++ rest).head?,
        (character == '+' || character == '-') = false := by
      intro character isHead
      rw [List.head?_append_of_ne_nil _ isSome] at isHead
      have isDigit := all character (List.mem_of_mem_head? isHead)
      by_contra isSign
      rw [Bool.not_eq_false, Bool.or_eq_true, beq_iff_eq, beq_iff_eq] at isSign
      rcases isSign with rfl | rfl <;> cases isDigit
    have sign := Text.takeWhile_eq isSign noSign
    rw [List.singleton_append] at sign
    simp only [isText, List.cons_append, exponentPart, sign, List.length_singleton,
      List.drop_succ_cons, List.drop_zero, Text.takeWhile_eq all noDigit,
      Text.dropWhile_eq all noDigit]
    simp [isSome]

theorem head_append {first second : List Char} {p : Char → Prop}
    (ofFirst : ∀ character ∈ first.head?, p character)
    (ofSecond : ∀ character ∈ second.head?, p character) :
    ∀ character ∈ (first ++ second).head?, p character := by
  cases first with
  | nil => exact ofSecond
  | cons head others => exact ofFirst

/-- The text of a number is read off the front of a text. -/
theorem number?_toChars (isSound : text.IsSound) (negative : Bool) (ends : EndsNumber rest) :
    number? negative (text.toChars ++ rest) =
      some (.real (ofDecimal negative text.decimal.digits text.decimal.exponent), rest) := by
  have later : ∀ character ∈ (text.marked ++ rest).head?,
      character.isDigit = false ∧ character ≠ '.' := by
    refine head_append (fun character isHead => ?_) fun character isHead => ?_
    · rw [text.marked_head character isHead]
      exact ⟨rfl, by decide⟩
    · exact ⟨(ends character isHead).1, (ends character isHead).2.1⟩
  have afterWhole : ∀ character ∈ (text.pointed ++ (text.marked ++ rest)).head?,
      character.isDigit = false := by
    refine head_append (fun character isHead => ?_) fun character isHead => (later _ isHead).1
    unfold NumberText.pointed at isHead
    split at isHead
    · cases isHead
    · cases isHead
      rfl
  have isReal : (text.pointed.isEmpty && text.marked.isEmpty) = false := by
    rcases isSound.isReal with isSome | isSome
    · simp [NumberText.pointed, isSome]
    · obtain ⟨⟨width, exponent⟩, isExponent⟩ := Option.isSome_iff_exists.1 isSome
      simp [NumberText.marked, isExponent]
  have read := Numeral.decimalReal?_toChars isSound negative
  rw [NumberText.toChars] at read ⊢
  rw [List.append_assoc, List.append_assoc]
  unfold number?
  rw [wholePart?_eq isSound.whole afterWhole]
  dsimp only
  rw [fractionPart_eq isSound later]
  dsimp only
  rw [exponentPart_eq text ends]
  dsimp only
  rw [isReal, read]
  rfl

theorem isWhole_toDigits (number : Nat) :
    Nat.toDigits 10 number = ['0'] ∨ IsNumeral (Nat.toDigits 10 number) := by
  rcases Nat.eq_zero_or_pos number with rfl | isPos
  · exact Or.inl (Nat.toDigits_zero 10)
  · exact Or.inr (isNumeral_toDigits isPos)

theorem length_toDigits_le {number bound : Nat} (isPos : 0 < bound)
    (isShort : number < Nat.pow 10 bound) : (Nat.toDigits 10 number).length ≤ bound :=
  (Nat.length_toDigits_le_iff (by decide) isPos).2 isShort

theorem decimal?_toDigits {number : Nat} (isShort : number < Nat.pow 10 Numeral.maxDecimalDigits) :
    Numeral.decimal? (Nat.toDigits 10 number) = some number := by
  have fits : (Nat.toDigits 10 number).length ≤ Numeral.maxDecimalDigits :=
    length_toDigits_le (by decide) isShort
  have read : Numeral.digits? 10 (Nat.toDigits 10 number) = some number := by
    rw [Numeral.digits?_eq Nat.toDigits_ne_nil fun digit isMember =>
      Nat.isDigit_of_mem_toDigits (by decide) (by decide) isMember, Nat.ofDigitChars_ten_toDigits]
  have head : ((Nat.toDigits 10 number).head? == some '0' && number != 0) = false := by
    rcases Nat.eq_zero_or_pos number with rfl | isPos
    · simp
    · simp [(isNumeral_toDigits isPos).head]
  rw [Numeral.decimal?, if_neg (not_lt.2 fits), read]
  dsimp only
  rw [head]
  rfl

theorem number?_toDigits {number : Nat} (isShort : number < Nat.pow 10 Numeral.maxDecimalDigits)
    (negative : Bool) (ends : EndsNumber rest) :
    number? negative (Nat.toDigits 10 number ++ rest) =
      some (.integer (Numeral.signed negative number), rest) := by
  unfold number?
  rw [wholePart?_eq (isWhole_toDigits number) fun _ isHead => (ends _ isHead).1]
  dsimp only
  rw [fractionPart_of_ends fun _ isHead => (ends _ isHead).2.1]
  dsimp only
  rw [exponentPart_of_ends ends]
  simp [decimal?_toDigits isShort]

/-! ## Numbers as values -/

theorem name?_of_isDigit {digit : Char} (isDigit : digit.isDigit) (rest : List Char) :
    name? (digit :: rest) = none ∧ name? ('-' :: digit :: rest) = none := by
  have differs {letter : Char} (noDigit : letter.isDigit = false) : (letter == digit) = false := by
    rw [beq_eq_false_iff_ne]
    rintro rfl
    simp [noDigit] at isDigit
  have small : ∀ letter ∈ ['n', 't', 'f', 'N', 'I', '-'], (letter == digit) = false := by
    intro letter isMember
    refine differs ?_
    simp only [List.mem_cons, List.not_mem_nil, or_false] at isMember
    rcases isMember with rfl | rfl | rfl | rfl | rfl | rfl <;> rfl
  simp only [List.forall_mem_cons] at small
  obtain ⟨n, t, f, capitalN, capitalI, minus, -⟩ := small
  constructor <;> simp [name?, names, List.isPrefixOf?, *]

theorem scalar?_of_isDigit {digit : Char} (isDigit : digit.isDigit) (negative : Bool)
    (rest : List Char) :
    scalar? ((if negative then ['-'] else []) ++ digit :: rest) =
      number? negative (digit :: rest) := by
  obtain ⟨noName, noNameToo⟩ := name?_of_isDigit isDigit rest
  cases negative
  · have noQuote : digit ≠ '"' := by
      rintro rfl
      cases isDigit
    have noMinus : digit ≠ '-' := by
      rintro rfl
      cases isDigit
    simp [scalar?, noName, noQuote, noMinus]
  · simp [scalar?, noNameToo]

/-- An integer that is short enough is read off the front of a text. -/
theorem scalar?_integer {number : Int} (isShort : isShort number) (ends : EndsNumber rest) :
    scalar? ((integerText number).toList ++ rest) = some (.integer number, rest) := by
  have read := number?_toDigits (of_decide_eq_true isShort) (decide (number < 0)) ends
  rw [Numeral.signed_natAbs] at read
  obtain ⟨first, others, isDigits⟩ :=
    List.exists_cons_of_ne_nil (Nat.toDigits_ne_nil (n := number.natAbs) (b := 10))
  have isDigit : first.isDigit :=
    Nat.isDigit_of_mem_toDigits (by decide) (by decide) (isDigits ▸ List.mem_cons_self)
  rw [isDigits] at read
  have dispatched := scalar?_of_isDigit isDigit (decide (number < 0)) (others ++ rest)
  rw [← read, List.cons_append, ← dispatched, integerText, String.toList_ofList, isDigits]
  simp

/-- A number is read off the front of a text. -/
theorem scalar?_real {number : Binary64} (isCanonical : number.IsCanonical)
    (ends : EndsNumber rest) :
    scalar? ((number.render jsonNumberFormat).toList ++ rest) = some (.real number, rest) := by
  cases number with
  | nan => simp [render, jsonNumberFormat, scalar?, name?, names, List.isPrefixOf?]
  | infinite negative =>
      cases negative <;>
        simp [render, jsonNumberFormat, scalar?, name?, names, List.isPrefixOf?]
  | finite negative mantissa exponent =>
      obtain ⟨text, isSound, isText, read⟩ := render_finite jsonNumberFormat isCanonical
      obtain ⟨first, others, isWhole⟩ := List.exists_cons_of_ne_nil isSound.whole_ne_nil
      have isDigit : first.isDigit := isSound.whole_digits _ (isWhole ▸ List.mem_cons_self)
      have taken := number?_toChars isSound negative ends
      have dispatched := scalar?_of_isDigit isDigit negative
        (others ++ text.pointed ++ text.marked ++ rest)
      have chars : text.toChars ++ rest =
          first :: (others ++ text.pointed ++ text.marked ++ rest) := by
        simp [NumberText.toChars, isWhole]
      rw [read, chars] at taken
      rw [isText, List.append_assoc, chars, dispatched, taken]

end Value

end DocHarvest
