import DocHarvest.Proofs.Text.Lines

/-!
# Trimmed texts

A text is trimmed if it neither starts nor ends with whitespace. Trimming changes no trimmed text,
what it yields is trimmed, and only whitespace is lost.
-/

namespace DocHarvest.Text

variable {text before : List Char}

/-- A text that neither starts nor ends with whitespace. -/
structure IsTrimmed (text : List Char) : Prop where
  starts : ∀ first ∈ text.head?, isBlank first = false
  ends : ∀ last ∈ text.getLast?, isBlank last = false

instance : DecidablePred IsTrimmed := fun text =>
  decidable_of_iff ((text.head?.all fun first => !isBlank first) ∧
      text.getLast?.all fun last => !isBlank last) <| by
    simp only [Option.all_eq_true, Bool.not_eq_true']
    constructor
    · rintro ⟨starts, ends⟩
      exact ⟨starts, ends⟩
    · rintro ⟨starts, ends⟩
      exact ⟨starts, ends⟩

theorem trimStart_of_head? (starts : ∀ first ∈ text.head?, isBlank first = false) :
    trimStart text = text := by
  cases text with
  | nil => rfl
  | cons first rest =>
      have kept := starts first (by simp)
      simp [trimStart, kept]

theorem head?_trimStart (text : List Char) :
    ∀ first ∈ (trimStart text).head?, isBlank first = false := by
  intro first isFirst
  have kept := List.head?_dropWhile_not isBlank text
  rw [Option.mem_def] at isFirst
  rw [trimStart] at isFirst
  rw [isFirst] at kept
  exact kept

/-- What stands in front of a text without its leading whitespace is whitespace. -/
theorem exists_trimStart (text : List Char) :
    ∃ gap, text = gap ++ trimStart text ∧ ∀ character ∈ gap, isBlank character := by
  refine ⟨text.takeWhile isBlank, List.takeWhile_append_dropWhile.symm, ?_⟩
  intro character isIn
  exact List.mem_takeWhile_imp isIn

/-- A text ends as what it ends with. -/
theorem getLast?_of_append {kept : Char → Prop}
    (ends : ∀ last ∈ (before ++ text).getLast?, kept last) : ∀ last ∈ text.getLast?, kept last := by
  intro last isLast
  apply ends
  rw [List.getLast?_append, Option.mem_def.1 isLast]
  rfl

theorem trim_of_getLast? (ends : ∀ last ∈ text.getLast?, isBlank last = false) :
    trim text = trimStart text := by
  obtain ⟨gap, whole, -⟩ := exists_trimStart text
  rw [whole] at ends
  exact dropEndWhile_of_getLast? (getLast?_of_append ends)

namespace IsTrimmed

theorem trim_eq (trimmed : IsTrimmed text) : trim text = text := by
  rw [trim_of_getLast? trimmed.ends, trimStart_of_head? trimmed.starts]

theorem trim_cons (trimmed : IsTrimmed text) {blank : Char} (dropped : isBlank blank) :
    trim (blank :: text) = text := by
  have start : trimStart (blank :: text) = trimStart text := by simp [trimStart, dropped]
  rw [trim, start, trimStart_of_head? trimmed.starts, dropEndWhile_of_getLast? trimmed.ends]

theorem trim_concat (trimmed : IsTrimmed text) {blank : Char} (dropped : isBlank blank) :
    trim (text ++ [blank]) = text := by
  cases text with
  | nil => simp [trim, trimStart, dropped, dropEndWhile]
  | cons first rest =>
      have kept : trimStart (first :: rest ++ [blank]) = first :: rest ++ [blank] :=
        trimStart_of_head? (by simpa using trimmed.starts)
      rw [trim, kept, dropEndWhile_concat dropped, dropEndWhile_of_getLast? trimmed.ends]

end IsTrimmed

theorem isTrimmed_trim (text : List Char) : IsTrimmed (trim text) := by
  constructor
  · intro first isFirst
    have isPrefix : trim text <+: trimStart text := dropEndWhile_isPrefix isBlank _
    obtain ⟨dropped, whole⟩ := isPrefix
    apply head?_trimStart text
    rw [← whole, List.head?_append, Option.mem_def.1 isFirst]
    rfl
  · intro last isLast
    have kept := List.head?_dropWhile_not isBlank (trimStart text).reverse
    rw [trim, dropEndWhile, List.getLast?_reverse, Option.mem_def] at isLast
    rw [isLast] at kept
    exact kept

end DocHarvest.Text
