import DocHarvest.Proofs.Value.RoundTrip

/-!
# The characters of JSON text

Indented JSON text consists of newlines and printable ASCII characters, whatever the texts in the
value hold. So an output that may change other characters leaves it as it is.
-/

namespace DocHarvest

namespace Text

/-- A newline, or a printable ASCII character. -/
def IsOrdinary (character : Char) : Prop :=
  character = '\n' ∨ 0x20 ≤ character.toNat ∧ character.toNat < 0x7f

instance (character : Char) : Decidable (IsOrdinary character) :=
  inferInstanceAs
    (Decidable (character = '\n' ∨ 0x20 ≤ character.toNat ∧ character.toNat < 0x7f))

/-- A text of ordinary characters. -/
def AreOrdinary (text : List Char) : Prop :=
  ∀ character ∈ text, IsOrdinary character

-- Named, for another instance would decide this for every character there is.
instance (text : List Char) : Decidable (AreOrdinary text) :=
  List.decidableBAll IsOrdinary text

variable {first second separator : List Char}

theorem areOrdinary_append (ofFirst : AreOrdinary first) (ofSecond : AreOrdinary second) :
    AreOrdinary (first ++ second) :=
  List.forall_mem_append.2 ⟨ofFirst, ofSecond⟩

theorem areOrdinary_join (ofSeparator : AreOrdinary separator) {pieces : List (List Char)}
    (ofPieces : ∀ piece ∈ pieces, AreOrdinary piece) : AreOrdinary (join separator pieces) := by
  induction pieces with
  | nil => simp [join, AreOrdinary]
  | cons piece rest ih =>
      rw [List.forall_mem_cons] at ofPieces
      cases rest with
      | nil => simpa [join] using ofPieces.1
      | cons next others =>
          have joined : join separator (piece :: next :: others) =
              piece ++ (separator ++ join separator (next :: others)) := by
            simp [join, List.intercalate_cons_cons]
          rw [joined]
          exact areOrdinary_append ofPieces.1 (areOrdinary_append ofSeparator (ih ofPieces.2))

theorem areOrdinary_of_digits {digits : List Char} (all : ∀ digit ∈ digits, digit.isDigit) :
    AreOrdinary digits := by
  intro digit isMember
  have isDigit := all digit isMember
  rw [Char.isDigit, Bool.and_eq_true, decide_eq_true_eq, decide_eq_true_eq] at isDigit
  have least : 48 ≤ digit.toNat := isDigit.1
  have most : digit.toNat ≤ 57 := isDigit.2
  right
  omega

end Text

open Text

/-! ## Numbers -/

theorem Value.areOrdinary_integerText (number : Int) :
    AreOrdinary (integerText number).toList := by
  rw [integerText, String.toList_ofList]
  apply areOrdinary_append
  · split <;> decide
  · apply areOrdinary_of_digits
    intro digit isMember
    exact Nat.isDigit_of_mem_toDigits (by decide) (by decide) isMember

namespace Binary64

theorem NumberText.IsSound.areOrdinary {text : NumberText} (isSound : text.IsSound) :
    AreOrdinary text.toChars := by
  have whole := areOrdinary_of_digits isSound.whole_digits
  have fraction := areOrdinary_of_digits isSound.fraction
  have pointed : AreOrdinary text.pointed := by
    unfold pointed
    split
    · decide
    · exact List.forall_mem_cons.2 ⟨by decide, fraction⟩
  have marked : AreOrdinary text.marked := by
    unfold marked
    split
    · decide
    · rename_i width exponent _
      obtain ⟨digits, -, all, -, isText⟩ := exponentText_eq width exponent
      have sign : IsOrdinary (if exponent < 0 then '-' else '+') := by
        split <;> decide
      rw [isText]
      exact List.forall_mem_cons.2
        ⟨by decide, List.forall_mem_cons.2 ⟨sign, areOrdinary_of_digits all⟩⟩
  exact areOrdinary_append (areOrdinary_append whole pointed) marked

theorem areOrdinary_render {number : Binary64} (isCanonical : number.IsCanonical) :
    AreOrdinary (number.render Value.jsonNumberFormat).toList := by
  cases number with
  | nan => decide
  | infinite negative => cases negative <;> decide
  | finite negative mantissa exponent =>
      obtain ⟨text, isSound, isText, -⟩ := render_finite Value.jsonNumberFormat isCanonical
      rw [isText]
      refine areOrdinary_append ?_ isSound.areOrdinary
      split <;> decide

end Binary64

namespace Value

/-! ## Strings -/

theorem areOrdinary_unitEscape {unit : Nat} (small : unit < 0x10000) :
    AreOrdinary (unitEscape unit) := by
  have digit (part : Nat) (small : part < 16) : IsOrdinary part.digitChar := by
    revert part
    decide
  rw [unitEscape, hexadecimal_four small]
  intro character isMember
  simp only [List.cons_append, List.nil_append, List.mem_cons, List.not_mem_nil,
    or_false] at isMember
  rcases isMember with rfl | rfl | rfl | rfl | rfl | rfl
  · decide
  · decide
  · exact digit _ (by omega)
  · exact digit _ (by omega)
  · exact digit _ (by omega)
  · exact digit _ (by omega)

theorem areOrdinary_jsonEscape (character : Char) : AreOrdinary (jsonEscape character) := by
  have valid : character.toNat < 0xd800 ∨ 0xdfff < character.toNat ∧ character.toNat < 0x110000 :=
    character.valid
  unfold jsonEscape
  dsimp only
  split_ifs with isQuoted isNewline isReturn isTab isFeed isBack isPlain isSmall
  · rw [Bool.or_eq_true, beq_iff_eq, beq_iff_eq] at isQuoted
    rcases isQuoted with rfl | rfl <;> decide
  · decide
  · decide
  · decide
  · decide
  · decide
  · rw [Bool.and_eq_true, decide_eq_true_eq, decide_eq_true_eq] at isPlain
    exact List.forall_mem_singleton.2 (Or.inr isPlain)
  · exact areOrdinary_unitEscape isSmall
  · exact areOrdinary_append (areOrdinary_unitEscape (by omega))
      (areOrdinary_unitEscape (by omega))

theorem areOrdinary_jsonString (content : String) : AreOrdinary (jsonString content).toList := by
  rw [toList_jsonString]
  refine List.forall_mem_cons.2 ⟨by decide, areOrdinary_append ?_ (by decide)⟩
  intro written isWritten
  obtain ⟨character, -, isEscape⟩ := List.mem_flatMap.1 isWritten
  exact areOrdinary_jsonEscape character written isEscape

/-! ## Values -/

theorem areOrdinary_newLine (level : Nat) : AreOrdinary (newLine level).toList := by
  intro character isMember
  rw [newLine, String.toList_ofList, List.mem_cons, List.mem_replicate] at isMember
  rcases isMember with rfl | ⟨-, rfl⟩ <;> decide

theorem areOrdinary_bracketed {openBracket closeBracket : String} (level : Nat)
    {parts : List String} (ofOpen : AreOrdinary openBracket.toList)
    (ofClose : AreOrdinary closeBracket.toList)
    (ofParts : ∀ part ∈ parts, AreOrdinary part.toList) :
    AreOrdinary (bracketed openBracket closeBracket level parts).toList := by
  by_cases isNone : parts = []
  · simpa [bracketed, isNone] using areOrdinary_append ofOpen ofClose
  · have separator : AreOrdinary (',' :: (newLine (level + 1)).toList) :=
      List.forall_mem_cons.2 ⟨by decide, areOrdinary_newLine (level + 1)⟩
    have joined := areOrdinary_join separator (List.forall_mem_map.2 ofParts)
    rw [toList_bracketed _ _ _ isNone]
    apply areOrdinary_append ofOpen
    apply areOrdinary_append (areOrdinary_newLine (level + 1))
    apply areOrdinary_append joined
    exact areOrdinary_append (areOrdinary_newLine level) ofClose

/-- The indented JSON text of a plain value holds ordinary characters only. -/
theorem areOrdinary_toIndentedJson {value : Value} (isPlain : value.IsPlain) (level : Nat) :
    AreOrdinary (value.toIndentedJson level).toList := by
  induction value using Value.induction generalizing level with
  | null => exact (by decide : AreOrdinary "null".toList)
  | boolean truth =>
      rw [toIndentedJson]
      split <;> decide
  | integer number => exact areOrdinary_integerText number
  | real number => exact Binary64.areOrdinary_render isPlain
  | text content => exact areOrdinary_jsonString content
  | list items ih =>
      rw [IsPlain, arePlain_iff] at isPlain
      rw [toIndentedJson, indentedItems_eq]
      refine areOrdinary_bracketed level (by decide) (by decide) (List.forall_mem_map.2 ?_)
      intro item isItem
      exact ih item isItem (isPlain item isItem) (level + 1)
  | object members ih =>
      rw [IsPlain, membersArePlain_iff] at isPlain
      rw [toIndentedJson, indentedMembers_eq]
      refine areOrdinary_bracketed level (by decide) (by decide) (List.forall_mem_map.2 ?_)
      intro member isMember
      have value := ih member isMember (isPlain.2 member isMember) (level + 1)
      simpa using areOrdinary_append (areOrdinary_jsonString member.1)
        (areOrdinary_append (show AreOrdinary [':', ' '] by decide) value)

end Value

end DocHarvest
