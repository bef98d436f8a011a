import DocHarvest.Text.Basic
import Mathlib.Data.List.Infix

/-!
# Cutting texts at marks

A text is cut at every occurrence of a mark, from the left. How a composed text is cut follows from
its parts as long as no occurrence begins in one part and ends in the next: this is what
`Text.Clear` asks for, and a character that is foreign to the mark grants it. Replacing a mark and
taking a text apart into lines are cuts as well.
-/

namespace DocHarvest.Text

variable {mark replacement text before rest : List Char} {foreign : Char}

/-! ## The start of a text -/

section

variable {p : Char → Bool} {kept rest : List Char}

theorem takeWhile_eq (all : ∀ character ∈ kept, p character)
    (ends : ∀ character ∈ rest.head?, p character = false) : (kept ++ rest).takeWhile p = kept := by
  rw [List.takeWhile_append_of_pos all]
  cases rest with
  | nil => simp
  | cons next others => simp [ends next rfl]

theorem dropWhile_eq (all : ∀ character ∈ kept, p character)
    (ends : ∀ character ∈ rest.head?, p character = false) : (kept ++ rest).dropWhile p = rest := by
  rw [List.dropWhile_append_of_pos all]
  cases rest with
  | nil => simp
  | cons next others => simp [ends next rfl]

end

theorem singleton_isPrefix_iff {first : Char} : [first] <+: text ↔ text.head? = some first := by
  cases text with
  | nil => simp
  | cons other text => simp [eq_comm]

/-! ## Where marks occur -/

theorem prefix_of_foreign (isForeign : foreign ∉ mark)
    (isPrefix : mark <+: before ++ foreign :: rest) : mark <+: before := by
  induction before generalizing mark with
  | nil =>
      rcases mark with _ | ⟨head, tail⟩
      · exact List.nil_prefix
      · have same := (List.cons_prefix_cons.1 isPrefix).1
        exact absurd (same ▸ List.mem_cons_self) isForeign
  | cons first before ih =>
      rcases mark with _ | ⟨head, tail⟩
      · exact List.nil_prefix
      · rcases List.cons_prefix_cons.1 isPrefix with ⟨rfl, isPrefixToo⟩
        rw [List.cons_prefix_cons]
        exact ⟨rfl, ih (fun inTail => isForeign (List.mem_cons_of_mem head inTail)) isPrefixToo⟩

/-- A mark does not reach over a character that is not in it. -/
theorem infix_of_foreign (isForeign : foreign ∉ mark)
    (occurs : mark <:+: before ++ foreign :: rest) : mark <:+: before ∨ mark <:+: rest := by
  induction before with
  | nil =>
      rcases List.infix_cons_iff.1 occurs with isPrefix | isLater
      · left
        have inNothing : mark <+: [] := prefix_of_foreign isForeign isPrefix
        exact inNothing.isInfix
      · exact Or.inr isLater
  | cons first before ih =>
      rcases List.infix_cons_iff.1 occurs with isPrefix | isLater
      · left
        have inBefore : mark <+: first :: before := prefix_of_foreign isForeign isPrefix
        exact inBefore.isInfix
      · apply (ih isLater).imp_left
        intro inBefore
        exact inBefore.trans (List.suffix_cons first before).isInfix

/-- No occurrence of a mark begins in the first of two parts of a text. -/
def Clear (mark before rest : List Char) : Prop :=
  ∀ later, later <:+ before → later ≠ [] → ¬ mark <+: later ++ rest

namespace Clear

theorem of_head? {head : Char} (starts : mark.head? = some head) (absent : head ∉ before) :
    Clear mark before rest := by
  intro later isLater nonempty isPrefix
  rcases mark with _ | ⟨head, tail⟩
  · cases starts
  · cases starts
    rcases later with _ | ⟨first, others⟩
    · exact nonempty rfl
    · apply absent
      rw [(List.cons_prefix_cons.1 isPrefix).1]
      exact isLater.subset List.mem_cons_self

theorem of_foreign (isForeign : foreign ∉ mark) (absent : ¬ mark <:+: before) :
    Clear mark before (foreign :: rest) := by
  intro later isLater _ isPrefix
  apply absent
  exact (prefix_of_foreign isForeign isPrefix).isInfix.trans isLater.isInfix

theorem of_absent (absent : ¬ mark <:+: before) : Clear mark before [] := by
  intro later isLater _ isPrefix
  rw [List.append_nil] at isPrefix
  exact absent (isPrefix.isInfix.trans isLater.isInfix)

end Clear

@[simp] theorem clear_nil : Clear mark [] rest := by
  intro later isLater nonempty
  exact absurd (List.suffix_nil.1 isLater) nonempty

theorem clear_cons {first : Char} :
    Clear mark (first :: before) rest ↔
      ¬ mark <+: first :: (before ++ rest) ∧ Clear mark before rest := by
  constructor
  · intro clear
    constructor
    · exact clear (first :: before) List.suffix_rfl (List.cons_ne_nil first before)
    · intro later isLater
      exact clear later (isLater.trans (List.suffix_cons first before))
  · rintro ⟨notHere, clear⟩ later isLater
    rcases List.suffix_cons_iff.1 isLater with rfl | isLater
    · intro _
      exact notHere
    · exact clear later isLater

theorem clear_append {next : List Char} :
    Clear mark (before ++ next) rest ↔
      Clear mark before (next ++ rest) ∧ Clear mark next rest := by
  induction before with
  | nil => simp
  | cons first before ih =>
      rw [List.cons_append, clear_cons, clear_cons, ih, List.append_assoc, and_assoc]

/-! ## Cutting -/

theorem foldr_extendFirst (text piece : List Char) (pieces : List (List Char)) :
    text.foldr extendFirst (piece :: pieces) = (text ++ piece) :: pieces := by
  induction text with
  | nil => rfl
  | cons first text ih => simp [ih, extendFirst]

theorem foldr_extendFirst_inj {pieces others : List (List Char)} (nonempty : pieces ≠ [])
    (othersToo : others ≠ []) :
    text.foldr extendFirst pieces = text.foldr extendFirst others ↔ pieces = others := by
  obtain ⟨piece, later, rfl⟩ := List.exists_cons_of_ne_nil nonempty
  obtain ⟨other, rest, rfl⟩ := List.exists_cons_of_ne_nil othersToo
  simp [foldr_extendFirst]

theorem splitAfter_eq (mark : List Char) (skip : Nat) (text : List Char) :
    splitAfter mark skip text = split mark (text.drop skip) := by
  induction text generalizing skip with
  | nil => cases skip <;> rfl
  | cons first text ih =>
      cases skip with
      | zero => rfl
      | succ skip => exact ih skip

/-- Where a mark stands, the text is cut and read on behind it. -/
theorem split_mark_append (nonempty : mark ≠ []) (rest : List Char) :
    split mark (mark ++ rest) = [] :: split mark rest := by
  rcases mark with _ | ⟨head, tail⟩
  · exact absurd rfl nonempty
  · have isPrefix : (head :: tail).isPrefixOf (head :: (tail ++ rest)) := by
      simp [List.isPrefixOf_iff_prefix]
    rw [List.cons_append, split, splitAfter, if_pos isPrefix, splitAfter_eq]
    simp

theorem split_cons_of_mismatch {first : Char} (absent : ¬ mark <+: first :: text) :
    split mark (first :: text) = extendFirst first (split mark text) := by
  rw [split, splitAfter, if_neg (by simpa [List.isPrefixOf_iff_prefix] using absent)]
  rfl

theorem split_ne_nil (mark text : List Char) : split mark text ≠ [] := by
  have each (skip : Nat) : splitAfter mark skip text ≠ [] := by
    induction text generalizing skip with
    | nil => cases skip <;> simp [splitAfter]
    | cons first text ih =>
        cases skip with
        | succ skip => exact ih skip
        | zero =>
            rw [splitAfter]
            split
            · simp
            · unfold extendFirst
              split <;> simp
  exact each 0

/-- In front of a clear part, the text is cut as without it. -/
theorem split_append (clear : Clear mark before rest) :
    split mark (before ++ rest) = before.foldr extendFirst (split mark rest) := by
  induction before with
  | nil => rfl
  | cons first before ih =>
      rcases clear_cons.1 clear with ⟨notHere, clear⟩
      rw [List.cons_append, split_cons_of_mismatch notHere, ih clear]
      rfl

theorem split_of_clear (clear : Clear mark text []) : split mark text = [text] := by
  have whole := split_append clear
  have nothing : split mark [] = [[]] := rfl
  rwa [List.append_nil, nothing, foldr_extendFirst, List.append_nil] at whole

theorem split_of_absent (absent : ¬ mark <:+: text) : split mark text = [text] :=
  split_of_clear (Clear.of_absent absent)

/-- A text is cut where its first mark stands. -/
theorem split_append_mark (nonempty : mark ≠ []) (clear : Clear mark before (mark ++ rest)) :
    split mark (before ++ mark ++ rest) = before :: split mark rest := by
  rw [List.append_assoc, split_append clear, split_mark_append nonempty, foldr_extendFirst,
    List.append_nil]

/-! ## Joining -/

theorem join_extendFirst (separator : List Char) (first : Char) {pieces : List (List Char)}
    (nonempty : pieces ≠ []) :
    join separator (extendFirst first pieces) = first :: join separator pieces := by
  rcases pieces with _ | ⟨piece, _ | ⟨next, later⟩⟩
  · exact absurd rfl nonempty
  · simp [extendFirst, join]
  · simp [extendFirst, join]

theorem join_foldr_extendFirst (separator : List Char) {pieces : List (List Char)}
    (nonempty : pieces ≠ []) :
    join separator (text.foldr extendFirst pieces) = text ++ join separator pieces := by
  obtain ⟨piece, pieces, rfl⟩ := List.exists_cons_of_ne_nil nonempty
  clear nonempty
  rw [foldr_extendFirst]
  rcases pieces with _ | ⟨next, later⟩
  · simp [join]
  · simp [join]

theorem join_nil_cons (separator : List Char) {pieces : List (List Char)}
    (nonempty : pieces ≠ []) :
    join separator ([] :: pieces) = separator ++ join separator pieces := by
  obtain ⟨piece, pieces, rfl⟩ := List.exists_cons_of_ne_nil nonempty
  simp [join]

/-- A text is cut into pieces that its mark joins again. -/
theorem join_split (nonempty : mark ≠ []) (text : List Char) :
    join mark (split mark text) = text := by
  induction length_eq : text.length using Nat.strong_induction_on generalizing text with
  | _ length ih =>
      by_cases isPrefix : mark <+: text
      · rcases isPrefix with ⟨rest, rfl⟩
        have shorter : rest.length < length := by
          have := List.length_pos_of_ne_nil nonempty
          rw [List.length_append] at length_eq
          omega
        rw [split_mark_append nonempty, join_nil_cons mark (split_ne_nil mark rest),
          ih rest.length shorter rest rfl]
      · rcases text with _ | ⟨first, rest⟩
        · simp [split, splitAfter, join]
        · rw [split_cons_of_mismatch isPrefix, join_extendFirst mark first (split_ne_nil mark rest),
            ih rest.length (by simp [← length_eq]) rest rfl]

theorem length_join (separator : List Char) (pieces : List (List Char)) :
    (join separator pieces).length =
      pieces.flatten.length + (pieces.length - 1) * separator.length := by
  induction pieces with
  | nil => simp [join]
  | cons piece pieces ih =>
      rcases pieces with _ | ⟨next, later⟩
      · simp [join]
      · have step : join separator (piece :: next :: later) =
            piece ++ (separator ++ join separator (next :: later)) := by
          simp [join]
        rw [step]
        simp only [List.length_append, ih, List.length_cons, List.flatten_cons]
        have count : (later.length + 1 + 1 - 1) * separator.length =
            (later.length + 1 - 1) * separator.length + separator.length := by
          rw [Nat.add_sub_cancel, Nat.add_sub_cancel, Nat.succ_mul]
        omega

theorem subset_join (separator : List Char) {piece : List Char} {pieces : List (List Char)}
    (isPiece : piece ∈ pieces) : piece ⊆ join separator pieces := by
  induction pieces with
  | nil => exact absurd isPiece List.not_mem_nil
  | cons first pieces ih =>
      rcases pieces with _ | ⟨next, later⟩
      · rw [List.mem_singleton.1 isPiece]
        simp [join]
      · have step : join separator (first :: next :: later) =
            first ++ (separator ++ join separator (next :: later)) := by
          simp [join]
        rw [step]
        rcases List.mem_cons.1 isPiece with rfl | isLater
        · exact List.subset_append_left piece _
        · have inJoined := List.Subset.trans (ih isLater) (List.subset_append_right separator _)
          exact List.Subset.trans inJoined (List.subset_append_right first _)

theorem subset_of_mem_split (nonempty : mark ≠ []) {piece : List Char}
    (isPiece : piece ∈ split mark text) : piece ⊆ text := by
  have whole := subset_join mark isPiece
  rwa [join_split nonempty] at whole

theorem two_le_length_split (nonempty : mark ≠ []) (occurs : mark <:+: text) :
    2 ≤ (split mark text).length := by
  induction text with
  | nil => exact absurd (List.infix_nil.1 occurs) nonempty
  | cons first text ih =>
      by_cases isPrefix : mark <+: first :: text
      · rcases isPrefix with ⟨rest, whole⟩
        rw [← whole, split_mark_append nonempty]
        have := List.length_pos_of_ne_nil (split_ne_nil mark rest)
        simp
        omega
      · have occursLater := (List.infix_cons_iff.1 occurs).resolve_left isPrefix
        rw [split_cons_of_mismatch isPrefix]
        obtain ⟨piece, pieces, pieces_eq⟩ := List.exists_cons_of_ne_nil (split_ne_nil mark text)
        rw [pieces_eq] at ih ⊢
        exact ih occursLater

/-! ## Cutting at a character -/

/-- A part without separators goes to the first piece of what follows it. -/
theorem splitChar_append {separator : Char} (absent : separator ∉ before) (rest : List Char) :
    splitChar separator (before ++ rest) = before.foldr extendFirst (splitChar separator rest) := by
  induction before with
  | nil => rfl
  | cons first before ih =>
      rw [List.mem_cons, not_or] at absent
      simp [splitChar, Ne.symm absent.1, ih absent.2]

theorem splitChar_of_not_mem {separator : Char} (absent : separator ∉ text) :
    splitChar separator text = [text] := by
  have whole := splitChar_append absent []
  rwa [List.append_nil, splitChar, foldr_extendFirst, List.append_nil] at whole

theorem splitChar_append_separator {separator : Char} (absent : separator ∉ before)
    (rest : List Char) :
    splitChar separator (before ++ separator :: rest) = before :: splitChar separator rest := by
  rw [splitChar_append absent, splitChar, if_pos (beq_self_eq_true separator), foldr_extendFirst,
    List.append_nil]

/-- A text with a separator has at least two pieces. -/
theorem exists_splitChar_of_mem {separator : Char} (isIn : separator ∈ text) :
    ∃ first next later, splitChar separator text = first :: next :: later := by
  obtain ⟨first, rest, rfl, absent⟩ := List.eq_append_cons_of_mem isIn
  obtain ⟨next, later, cut⟩ := List.exists_cons_of_ne_nil (splitChar_ne_nil separator rest)
  exact ⟨first, next, later, by rw [splitChar_append_separator absent, cut]⟩

/-! ## Replacing -/

theorem replaceAll_mark_append (nonempty : mark ≠ []) (rest : List Char) :
    replaceAll mark replacement (mark ++ rest) =
      replacement ++ replaceAll mark replacement rest := by
  rw [replaceAll, split_mark_append nonempty, join_nil_cons replacement (split_ne_nil mark rest)]
  rfl

theorem replaceAll_append (clear : Clear mark before rest) :
    replaceAll mark replacement (before ++ rest) =
      before ++ replaceAll mark replacement rest := by
  rw [replaceAll, split_append clear,
    join_foldr_extendFirst replacement (split_ne_nil mark rest)]
  rfl

theorem replaceAll_of_absent (absent : ¬ mark <:+: text) :
    replaceAll mark replacement text = text := by
  simp [replaceAll, split_of_absent absent, join]

theorem length_replaceAll_le (nonempty : mark ≠ []) (shorter : replacement.length ≤ mark.length)
    (text : List Char) : (replaceAll mark replacement text).length ≤ text.length := by
  have before := congrArg List.length (join_split nonempty text)
  rw [length_join] at before
  rw [replaceAll, length_join]
  have := Nat.mul_le_mul_left ((split mark text).length - 1) shorter
  omega

theorem length_replaceAll_lt (shorter : replacement.length < mark.length)
    (occurs : mark <:+: text) : (replaceAll mark replacement text).length < text.length := by
  have nonempty : mark ≠ [] := by
    rintro rfl
    simp at shorter
  have before := congrArg List.length (join_split nonempty text)
  rw [length_join] at before
  rw [replaceAll, length_join]
  have count := two_le_length_split nonempty occurs
  have several : 0 < (split mark text).length - 1 := by omega
  have := Nat.mul_lt_mul_of_pos_left shorter several
  omega

theorem replaceFirst_of_absent (absent : ¬ mark <:+: text) :
    replaceFirst mark replacement text = text := by
  induction text with
  | nil => rfl
  | cons first text ih =>
      rw [List.infix_cons_iff, not_or] at absent
      rw [replaceFirst, if_neg (by simpa [List.isPrefixOf_iff_prefix] using absent.1), ih absent.2]

theorem replaceFirst_mark_append (nonempty : mark ≠ []) (rest : List Char) :
    replaceFirst mark replacement (mark ++ rest) = replacement ++ rest := by
  rcases mark with _ | ⟨head, tail⟩
  · exact absurd rfl nonempty
  · have isPrefix : (head :: tail).isPrefixOf (head :: (tail ++ rest)) := by
      simp [List.isPrefixOf_iff_prefix]
    rw [List.cons_append, replaceFirst, if_pos isPrefix]
    simp

theorem length_replaceFirst_lt (shorter : replacement.length < mark.length)
    (occurs : mark <:+: text) : (replaceFirst mark replacement text).length < text.length := by
  induction text with
  | nil =>
      rw [List.infix_nil.1 occurs] at shorter
      simp at shorter
  | cons first text ih =>
      rw [replaceFirst]
      split
      · next isPrefix =>
        have fits := (List.isPrefixOf_iff_prefix.1 isPrefix).length_le
        rw [List.length_append, List.length_drop]
        omega
      · next notPrefix =>
        have occursLater := (List.infix_cons_iff.1 occurs).resolve_left
          (by simpa [List.isPrefixOf_iff_prefix] using notPrefix)
        simpa using ih occursLater

end DocHarvest.Text
