import DocHarvest.Value.Printer
import DocHarvest.Value.Reader
import Mathlib.Tactic.SplitIfs

/-!
# Strings in JSON text

A string is written by UTF-16 units where a character cannot stand for itself, and the units of a
text are the units that are read back. Joining surrogate pairs gives the characters again.
-/

namespace DocHarvest.Value

/-- The UTF-16 units of a character. -/
def unitsOf (character : Char) : List Nat :=
  if character.toNat < 0x10000 then [character.toNat]
  else [0xd800 + (character.toNat - 0x10000) / 0x400, 0xdc00 + (character.toNat - 0x10000) % 0x400]

/-! ## Escapes -/

theorem digitOf?_digitChar {digit : Nat} (small : digit < 16) :
    Numeral.digitOf? digit.digitChar = some digit := by
  revert digit
  decide

theorem hexadecimal_four {unit : Nat} (small : unit < 0x10000) :
    Text.Quoted.hexadecimal 4 unit = [(unit / 4096).digitChar, (unit / 256 % 16).digitChar,
      (unit / 16 % 16).digitChar, (unit % 16).digitChar] := by
  have hex (number : Nat) : Nat.toDigits 16 number =
      if number < 16 then [number.digitChar]
      else Nat.toDigits 16 (number / 16) ++ [(number % 16).digitChar] :=
    Nat.toDigits_eq_if (by decide)
  unfold Text.Quoted.hexadecimal
  by_cases one : unit < 16
  · have zeros : unit / 4096 = 0 ∧ unit / 256 = 0 ∧ unit / 16 = 0 := by omega
    simp [hex unit, one, zeros, List.replicate, Nat.mod_eq_of_lt]
  by_cases two : unit < 256
  · have zeros : unit / 4096 = 0 ∧ unit / 256 = 0 := by omega
    have last : unit / 16 < 16 := by omega
    simp [hex unit, hex (unit / 16), one, last, zeros, List.replicate, Nat.mod_eq_of_lt last]
  by_cases three : unit < 4096
  · have zeros : unit / 4096 = 0 := by omega
    have next : ¬ unit / 16 < 16 := by omega
    have last : unit / 256 < 16 := by omega
    simp [hex unit, hex (unit / 16), hex (unit / 256), Nat.div_div_eq_div_mul, one, next, last,
      zeros, Nat.mod_eq_of_lt last]
  · have next : ¬ unit / 16 < 16 := by omega
    have later : ¬ unit / 256 < 16 := by omega
    have last : unit / 4096 < 16 := by omega
    simp [hex unit, hex (unit / 16), hex (unit / 256), hex (unit / 4096), Nat.div_div_eq_div_mul,
      one, next, later, last]

theorem hexUnit?_hexadecimal {unit : Nat} (small : unit < 0x10000) :
    hexUnit? (unit / 4096).digitChar (unit / 256 % 16).digitChar (unit / 16 % 16).digitChar
      (unit % 16).digitChar = some unit := by
  have first : unit / 4096 < 16 := by omega
  have later (part : Nat) : part % 16 < 16 := Nat.mod_lt _ (by decide)
  simp [hexUnit?, Numeral.digits?, Numeral.digitsFrom?, digitOf?_digitChar, first, later]
  omega

/-- An escaped unit is read as the unit. -/
theorem stringUnits?_unitEscape {unit : Nat} (small : unit < 0x10000) (rest : List Char) :
    stringUnits? (unitEscape unit ++ rest) =
      (stringUnits? rest).map fun (units, left) => (unit :: units, left) := by
  rw [unitEscape, hexadecimal_four small]
  simp only [List.cons_append, List.nil_append, stringUnits?, hexUnit?_hexadecimal small]
  cases stringUnits? rest <;> rfl

theorem stringUnits?_simpleEscape {mark character : Char}
    (isEscape : simpleEscape? mark = some character) (rest : List Char) :
    stringUnits? ('\\' :: mark :: rest) =
      (stringUnits? rest).map fun (units, left) => (character.toNat :: units, left) := by
  have noUnit : mark ≠ 'u' := by
    rintro rfl
    cases isEscape
  rw [stringUnits?, isEscape]
  · cases stringUnits? rest <;> rfl
  · simp [noUnit]

theorem stringUnits?_plain {character : Char} (isPrinted : 0x20 ≤ character.toNat)
    (noQuote : character ≠ '"') (noEscape : character ≠ '\\') (rest : List Char) :
    stringUnits? (character :: rest) =
      (stringUnits? rest).map fun (units, left) => (character.toNat :: units, left) := by
  rw [stringUnits?, if_neg]
  · simp [noEscape]
    omega
  all_goals simp [noQuote, noEscape]

/-- A character in a string is read as its units. -/
theorem stringUnits?_jsonEscape (character : Char) (rest : List Char) :
    stringUnits? (jsonEscape character ++ rest) =
      (stringUnits? rest).map fun (units, left) => (unitsOf character ++ units, left) := by
  have single (small : character.toNat < 0x10000) : unitsOf character = [character.toNat] :=
    if_pos small
  unfold jsonEscape
  dsimp only
  split_ifs with isQuoted isNewline isReturn isTab isFeed isBack isPlain isSmall
  · rw [Bool.or_eq_true, beq_iff_eq, beq_iff_eq] at isQuoted
    rcases isQuoted with rfl | rfl
    · exact stringUnits?_simpleEscape rfl rest
    · exact stringUnits?_simpleEscape rfl rest
  · rw [beq_iff_eq] at isNewline
    subst isNewline
    exact stringUnits?_simpleEscape rfl rest
  · rw [beq_iff_eq] at isReturn
    subst isReturn
    exact stringUnits?_simpleEscape rfl rest
  · rw [beq_iff_eq] at isTab
    subst isTab
    exact stringUnits?_simpleEscape rfl rest
  · rw [beq_iff_eq] at isFeed
    rw [single (by omega), isFeed]
    exact stringUnits?_simpleEscape (show simpleEscape? 'f' = some (Char.ofNat 0x0c) from rfl) rest
  · rw [beq_iff_eq] at isBack
    rw [single (by omega), isBack]
    exact stringUnits?_simpleEscape (show simpleEscape? 'b' = some (Char.ofNat 0x08) from rfl) rest
  · rw [Bool.and_eq_true, decide_eq_true_eq, decide_eq_true_eq] at isPlain
    rw [Bool.or_eq_true, beq_iff_eq, beq_iff_eq, not_or] at isQuoted
    rw [single (by omega)]
    exact stringUnits?_plain isPlain.1 isQuoted.1 isQuoted.2 rest
  · rw [single isSmall]
    exact stringUnits?_unitEscape isSmall rest
  · have valid : character.toNat < 0xd800 ∨ 0xdfff < character.toNat ∧ character.toNat < 0x110000 :=
      character.valid
    have high : 0xd800 + (character.toNat - 0x10000) / 0x400 < 0x10000 := by
      omega
    have low : 0xdc00 + (character.toNat - 0x10000) % 0x400 < 0x10000 := by omega
    rw [List.append_assoc, stringUnits?_unitEscape high, stringUnits?_unitEscape low, unitsOf,
      if_neg isSmall]
    cases stringUnits? rest <;> rfl

/-! ## Characters -/

theorem charsOfUnits_cons {unit : Nat} (noHigh : isHighSurrogate unit = false)
    (noLow : isLowSurrogate unit = false) (units : List Nat) :
    charsOfUnits (unit :: units) = Char.ofNat unit :: charsOfUnits units := by
  cases units with
  | nil => simp [charsOfUnits, noHigh, noLow]
  | cons next rest => simp [charsOfUnits, noHigh, noLow]

theorem charsOfUnits_pair {high low : Nat} (isHigh : isHighSurrogate high)
    (isLow : isLowSurrogate low) (units : List Nat) :
    charsOfUnits (high :: low :: units) =
      Char.ofNat (0x10000 + (high - 0xd800) * 0x400 + (low - 0xdc00)) :: charsOfUnits units := by
  simp [charsOfUnits, isHigh, isLow]

/-- The units of a character are joined to the character again. -/
theorem charsOfUnits_unitsOf (character : Char) (units : List Nat) :
    charsOfUnits (unitsOf character ++ units) = character :: charsOfUnits units := by
  have valid : character.toNat < 0xd800 ∨ 0xdfff < character.toNat ∧ character.toNat < 0x110000 :=
    character.valid
  unfold unitsOf
  split
  · have noHigh : isHighSurrogate character.toNat = false := by
      simp [isHighSurrogate]
      omega
    have noLow : isLowSurrogate character.toNat = false := by
      simp [isLowSurrogate]
      omega
    rw [List.singleton_append, charsOfUnits_cons noHigh noLow, Char.ofNat_toNat]
  · have isHigh : isHighSurrogate (0xd800 + (character.toNat - 0x10000) / 0x400) := by
      simp [isHighSurrogate]
      omega
    have isLow : isLowSurrogate (0xdc00 + (character.toNat - 0x10000) % 0x400) := by
      simp [isLowSurrogate]
      omega
    have joined : 0x10000 + (0xd800 + (character.toNat - 0x10000) / 0x400 - 0xd800) * 0x400 +
        (0xdc00 + (character.toNat - 0x10000) % 0x400 - 0xdc00) = character.toNat := by
      omega
    rw [List.cons_append, List.singleton_append, charsOfUnits_pair isHigh isLow, joined,
      Char.ofNat_toNat]

theorem stringUnits?_flatMap (characters rest : List Char) :
    stringUnits? (characters.flatMap jsonEscape ++ '"' :: rest) =
      some (characters.flatMap unitsOf, rest) := by
  induction characters with
  | nil => rfl
  | cons character others ih =>
      rw [List.flatMap_cons, List.append_assoc, stringUnits?_jsonEscape, ih]
      rfl

/-- A string is read off the front of a text. -/
theorem string?_flatMap (content : String) (rest : List Char) :
    string? (content.toList.flatMap jsonEscape ++ '"' :: rest) = some (content, rest) := by
  have joined (characters : List Char) :
      charsOfUnits (characters.flatMap unitsOf) = characters := by
    induction characters with
    | nil => rfl
    | cons character others ih => rw [List.flatMap_cons, charsOfUnits_unitsOf, ih]
  rw [string?, stringUnits?_flatMap]
  simp [joined]

theorem toList_jsonString (content : String) :
    (jsonString content).toList = '"' :: (content.toList.flatMap jsonEscape ++ ['"']) := by
  simp [jsonString]

end DocHarvest.Value
