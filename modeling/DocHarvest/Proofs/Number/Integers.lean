import DocHarvest.Proofs.Text.Lines
import DocHarvest.Param.Guess
import DocHarvest.Tree.Program
import Mathlib.Data.List.Forall2
import Mathlib.Data.Nat.Digits.Defs
import Mathlib.Tactic.Ring

/-!
# Integer literals

An integer literal is written in one of four bases, with separators between its digits and perhaps
with the suffix of a big integer. It is read as the exact integer that its digits denote, however
many there are, so that a literal of a program counts as a number.
-/

namespace DocHarvest

namespace Numeral

/-! ## How integers are written -/

/-- The bases that integers are written in. -/
inductive Radix
  | binary
  | octal
  | decimal
  | hexadecimal
deriving DecidableEq, Repr

namespace Radix

/-- The base itself. -/
def base : Radix → Nat
  | .binary => 2
  | .octal => 8
  | .decimal => 10
  | .hexadecimal => 16

/-- What a literal in a base starts with. -/
def openings : Radix → List (List Char)
  | .binary => [['0', 'b'], ['0', 'B']]
  | .octal => [['0', 'o'], ['0', 'O']]
  | .decimal => [[]]
  | .hexadecimal => [['0', 'x'], ['0', 'X']]

end Radix

/-- A character stands for a digit; letters do so in either case. -/
def Shows (character : Char) (digit : Nat) : Prop :=
  character = Nat.digitChar digit ∨ character = (Nat.digitChar digit).toUpper

/-- Digits of a base, from the first to the last, with separators between them. -/
inductive Spells (base : Nat) : List Char → List Nat → Prop
  | last {character : Char} {digit : Nat} (small : digit < base) (shown : Shows character digit) :
      Spells base [character] [digit]
  | next {character : Char} {digit : Nat} {text : List Char} {digits : List Nat}
      (small : digit < base) (shown : Shows character digit) (separators : Nat)
      (later : Spells base text digits) :
      Spells base (character :: (List.replicate separators '_' ++ text)) (digit :: digits)

/-- The text of an integer literal, by its base and its digits. -/
structure IsIntegerLiteral (radix : Radix) (digits : List Nat) (text : String) : Prop where
  written : ∃ opening ∈ radix.openings, ∃ body, Spells radix.base body digits ∧
    ∃ suffix ∈ [[], ['n']], text.toList = opening ++ body ++ suffix
  /-- A decimal has no zero in front of other digits and is not longer than the limit. -/
  decimal : radix = .decimal →
    digits.length ≤ maxDecimalDigits ∧ (digits.head? = some 0 → digits = [0])

/-! ## Digits -/

/-- A character of a numeral that is no margin, mark or digit of another script. -/
def IsBare (character : Char) : Prop :=
  isMargin character = false ∧ plainDigit character = character ∧ character ∉ ['_', 'n', '-', '+']

instance (character : Char) : Decidable (IsBare character) :=
  inferInstanceAs (Decidable (_ ∧ _))

variable {base digit : Nat} {character : Char} {text body numeral : List Char} {digits : List Nat}
  {radix : Radix}

theorem digit_of_shows (small : digit < 16) (shown : Shows character digit) :
    digitOf? character = some digit ∧ IsBare character := by
  have lower : ∀ digit < 16, digitOf? (Nat.digitChar digit) = some digit ∧
      IsBare (Nat.digitChar digit) := by decide
  have upper : ∀ digit < 16, digitOf? (Nat.digitChar digit).toUpper = some digit ∧
      IsBare (Nat.digitChar digit).toUpper := by decide
  rcases shown with rfl | rfl
  · exact lower digit small
  · exact upper digit small

theorem ne_zero_of_shows (small : digit < 16) (shown : Shows character digit)
    (nonzero : digit ≠ 0) : character ≠ '0' := by
  rintro rfl
  have read := (digit_of_shows small shown).1
  exact nonzero (Option.some.inj read).symm

/-- What is left of digits without the separators between them. -/
theorem Spells.shown (isBase : base ≤ 16) (spelled : Spells base body digits) :
    List.Forall₂ (fun character digit => digit < base ∧ Shows character digit)
      (body.filter (· != '_')) digits := by
  have stays {character : Char} {digit : Nat} (small : digit < base)
      (shown : Shows character digit) : character ≠ '_' := by
    rintro rfl
    exact absurd (digit_of_shows (small.trans_le isBase) shown).2 (by decide)
  induction spelled with
  | last small shown =>
      simpa [stays small shown] using ⟨small, shown⟩
  | next small shown separators later ih =>
      simpa [stays small shown] using ⟨⟨small, shown⟩, ih⟩

theorem digitsFrom?_of_shown (isBase : base ≤ 16)
    (shown : List.Forall₂ (fun character digit => digit < base ∧ Shows character digit) text digits)
    (read : Nat) : digitsFrom? base read text =
      some (read * base ^ digits.length + Nat.ofDigits base digits.reverse) := by
  induction shown generalizing read with
  | nil => simp [digitsFrom?]
  | @cons character digit text digits first later ih =>
      have isDigit := (digit_of_shows (first.1.trans_le isBase) first.2).1
      rw [digitsFrom?, isDigit]
      dsimp only
      rw [if_pos first.1, ih, List.reverse_cons, Nat.ofDigits_append, Nat.ofDigits_singleton,
        List.length_reverse, List.length_cons]
      congr 1
      ring

theorem isBare_of_shown (isBase : base ≤ 16)
    (shown : List.Forall₂ (fun character digit => digit < base ∧ Shows character digit) text
      digits) : ∀ character ∈ text, IsBare character := by
  induction shown with
  | nil => simp
  | cons first later ih =>
      exact List.forall_mem_cons.2 ⟨(digit_of_shows (first.1.trans_le isBase) first.2).2, ih⟩

/-! ## Numerals without marks -/

theorem plain_of_bare (bare : ∀ character ∈ numeral, IsBare character) :
    plain numeral = numeral := by
  have starts : numeral.dropWhile isMargin = numeral := by
    cases numeral with
    | nil => rfl
    | cons first rest => simp [(bare first List.mem_cons_self).1]
  have ends : Text.dropEndWhile isMargin numeral = numeral :=
    Text.dropEndWhile_of_getLast? fun last isLast => (bare last (List.mem_of_getLast? isLast)).1
  rw [plain, starts, ends]
  conv_rhs => rw [← List.map_id numeral]
  exact List.map_congr_left fun character isIn => (bare character isIn).2.1

theorem integer?_of_bare (bare : ∀ character ∈ numeral, IsBare character) :
    integer? numeral = (magnitude? numeral).map (signed false) := by
  have unsigned : splitSign numeral = (false, numeral) := by
    unfold splitSign
    split
    · exact absurd (bare '-' List.mem_cons_self).2.2 (by decide)
    · exact absurd (bare '+' List.mem_cons_self).2.2 (by decide)
    · rfl
  rw [integer?, unsigned]

theorem withoutMarks_of_bare {suffix : List Char} (isSuffix : suffix ∈ [[], ['n']])
    (bare : ∀ character ∈ numeral, IsBare character) {written : List Char}
    (same : written.filter (· != '_') = numeral ++ suffix) : withoutMarks written = numeral := by
  have ends : Text.dropEndWhile (· == 'n') numeral = numeral := by
    refine Text.dropEndWhile_of_getLast? fun last isLast => ?_
    have noMark := (bare last (List.mem_of_getLast? isLast)).2.2
    simp_all
  rw [withoutMarks, same]
  rcases List.mem_pair.1 isSuffix with rfl | rfl
  · rw [List.append_nil, ends]
  · rw [Text.dropEndWhile_concat rfl, ends]

/-! ## The integer of a literal -/

theorem Radix.base_le (radix : Radix) : radix.base ≤ 16 := by
  cases radix <;> decide

theorem isBare_of_mem_openings {opening : List Char} (isOpening : opening ∈ radix.openings) :
    ∀ character ∈ opening, IsBare character := by
  have each : radix.openings.all fun opening => opening.all fun character => IsBare character := by
    cases radix <;> decide
  simpa using List.all_eq_true.1 each opening isOpening

/-- Digits behind the mark of their base are read in that base. -/
theorem magnitude?_marked {opening : List Char} (isOpening : opening ∈ radix.openings)
    (marked : radix ≠ .decimal) (text : List Char) :
    magnitude? (opening ++ text) = digits? radix.base text := by
  cases radix with
  | decimal => exact absurd rfl marked
  | binary | octal | hexadecimal =>
      rcases List.mem_pair.1 isOpening with rfl | rfl <;> rfl

theorem digits?_of_shown (isBase : base ≤ 16)
    (shown : List.Forall₂ (fun character digit => digit < base ∧ Shows character digit) text digits)
    (isSome : digits ≠ []) : digits? base text = some (Nat.ofDigits base digits.reverse) := by
  have nonempty : text ≠ [] := by
    rintro rfl
    exact isSome (List.forall₂_nil_left_iff.1 shown)
  rw [digits?, if_neg (by simpa using nonempty), digitsFrom?_of_shown isBase shown, Nat.zero_mul,
    Nat.zero_add]

/-- Digits without a mark are read in base ten, if the first one is no zero or stands alone. -/
theorem magnitude?_decimal
    (shown : List.Forall₂ (fun character digit => digit < 10 ∧ Shows character digit) text digits)
    (isSome : digits ≠ []) (short : digits.length ≤ maxDecimalDigits)
    (canonical : digits.head? = some 0 → digits = [0]) :
    magnitude? text = some (Nat.ofDigits 10 digits.reverse) := by
  have read := digits?_of_shown (by decide) shown isSome
  have fits : ¬ maxDecimalDigits < text.length := by
    rw [shown.length_eq]
    exact Nat.not_lt.2 short
  cases shown with
  | nil => exact absurd rfl isSome
  | @cons character digit text digits first later =>
      by_cases isZero : digit = 0
      · subst isZero
        obtain rfl : digits = [] := by simpa using canonical rfl
        obtain rfl := List.forall₂_nil_right_iff.1 later
        obtain rfl : character = '0' := by rcases first.2 with rfl | rfl <;> rfl
        decide
      · have noZero := ne_zero_of_shows (first.1.trans (by decide)) first.2 isZero
        have unmarked : magnitude? (character :: text) = decimal? (character :: text) := by
          unfold magnitude?
          split
          · next same => exact absurd (List.cons.inj same).1 noZero
          · rfl
        rw [unmarked, decimal?, if_neg fits, read]
        simp [noZero]

theorem Spells.digits_ne_nil (spelled : Spells base body digits) : digits ≠ [] := by
  cases spelled <;> simp

/-- The text of an integer literal is read as the integer that its digits denote. -/
theorem IsIntegerLiteral.ofLiteral? {text : String} (literal : IsIntegerLiteral radix digits text) :
    ofLiteral? text = some (.integer (Nat.ofDigits radix.base digits.reverse : Nat)) := by
  obtain ⟨opening, isOpening, body, spelled, suffix, isSuffix, same⟩ := literal.written
  have shown := spelled.shown radix.base_le
  have isSome := spelled.digits_ne_nil
  have bareOpening := isBare_of_mem_openings isOpening
  have bare : ∀ character ∈ opening ++ body.filter (· != '_'), IsBare character :=
    List.forall_mem_append.2 ⟨bareOpening, isBare_of_shown radix.base_le shown⟩
  have unmarked : withoutMarks text.toList = opening ++ body.filter (· != '_') := by
    refine withoutMarks_of_bare isSuffix bare ?_
    have keptOpening : opening.filter (· != '_') = opening := by
      have noSeparator : '_' ∉ opening := fun isIn => absurd (bareOpening '_' isIn) (by decide)
      simpa [List.filter_eq_self] using fun character isIn => ne_of_mem_of_not_mem isIn noSeparator
    have keptSuffix : suffix.filter (· != '_') = suffix := by
      rcases List.mem_pair.1 isSuffix with rfl | rfl <;> rfl
    rw [same, List.filter_append, List.filter_append, keptOpening, keptSuffix]
  have magnitude : magnitude? (opening ++ body.filter (· != '_')) =
      some (Nat.ofDigits radix.base digits.reverse) := by
    by_cases isDecimal : radix = .decimal
    · subst isDecimal
      obtain ⟨short, canonical⟩ := literal.decimal rfl
      rw [List.mem_singleton.1 isOpening, List.nil_append]
      exact magnitude?_decimal shown isSome short canonical
    · rw [magnitude?_marked isOpening isDecimal, digits?_of_shown radix.base_le shown isSome]
  rw [Numeral.ofLiteral?, unmarked, plain_of_bare bare, integer?_of_bare bare, magnitude]
  rfl

end Numeral

namespace Tree

open Numeral

/-- A number literal becomes a literal of the value that its text has. -/
theorem node_of_number {source : Source} {tree : Tree} (isNumber : tree.kind = "number")
    (next : NodeId) : ∃ node, (tree.node source).run next = .ok (node, next + 1) ∧
      node.shape = .literal (numberValue (source.text tree)) .number := by
  have found : Construct.ofKind tree.kind = .number := by
    rw [isNumber]
    rfl
  let literal : Node := .mk { id := next } (.literal (numberValue (source.text tree)) .number)
  have made (convert : Convert tree.size) :
      (unplaced source tree convert).run next = .ok (literal, next + 1) := by
    rw [unplaced, found]
    rfl
  refine ⟨placed source tree literal, ?_, ?_⟩
  · rw [Tree.node, StateT.run_bind, made]
    rfl
  · unfold placed
    split <;> rfl

/--
The text of an integer literal is read as the exact integer that its digits denote, and the literal
that a program has in its place is a number.
-/
theorem integer_literals_exact {radix : Radix} {digits : List Nat} {text : String}
    (literal : IsIntegerLiteral radix digits text) :
    numberValue text = .integer (Nat.ofDigits radix.base digits.reverse : Nat) ∧
      ∀ (source : Source) (tree : Tree) (next : NodeId), tree.kind = "number" →
        source.text tree = text → ∃ node, (tree.node source).run next = .ok (node, next + 1) ∧
          node.shape = .literal (.integer (Nat.ofDigits radix.base digits.reverse : Nat)) .number ∧
          Param.guessType (some node) = .ok (Param.ofType "number") := by
  have value : numberValue text = .integer (Nat.ofDigits radix.base digits.reverse : Nat) := by
    rw [numberValue, literal.ofLiteral?]
  refine ⟨value, fun source tree next isNumber same => ?_⟩
  obtain ⟨node, ran, shape⟩ := node_of_number isNumber next
  rw [same, value] at shape
  refine ⟨node, ran, shape, ?_⟩
  simp [Param.guessType, Param.typeIsWritable, Param.ofExpression, Param.typeOf, shape,
    Value.typeName]

theorem separated_hexadecimal_exact :
    IsIntegerLiteral .hexadecimal [15, 15, 1] "0xFf_1n" ∧
      numberValue "0xFf_1n" = .integer 4081 ∧
      (Source.ofText "0xFf_1n").text (.mk "number" true none 0 7 []) = "0xFf_1n" ∧
      ∃ node, (Tree.node (Source.ofText "0xFf_1n") (.mk "number" true none 0 7 [])).run 0 =
          .ok (node, 1) ∧
        node.shape = .literal (.integer 4081) .number ∧
        Param.guessType (some node) = .ok (Param.ofType "number") := by
  have one : Spells 16 ['1'] [1] := .last (by decide) (.inl rfl)
  have two : Spells 16 ['f', '_', '1'] [15, 1] :=
    @Spells.next 16 'f' 15 ['1'] [1] (by decide) (.inl rfl) 1 one
  have three : Spells 16 ['F', 'f', '_', '1'] [15, 15, 1] :=
    @Spells.next 16 'F' 15 ['f', '_', '1'] [15, 1] (by decide) (.inr rfl) 0 two
  have literal : IsIntegerLiteral .hexadecimal [15, 15, 1] "0xFf_1n" :=
    ⟨⟨['0', 'x'], by decide, _, three, ['n'], by decide, rfl⟩, by decide⟩
  have covered : (Source.ofText "0xFf_1n").text (.mk "number" true none 0 7 []) = "0xFf_1n" := by
    decide +kernel
  obtain ⟨value, inTree⟩ := integer_literals_exact literal
  exact ⟨literal, value, covered, inTree _ _ 0 rfl covered⟩

end Tree

end DocHarvest
