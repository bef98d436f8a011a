import DocHarvest.Proofs.Comment.Tagging

/-!
# One tag on one line

A comment of one line that holds a tag and a text. The tag is always read back by its name, but its
text is kept only if it cannot be taken for something else: a text that starts with `@` counts as
another name, and a mark within a text acts as a mark.
-/

namespace DocHarvest.Comment

variable {name text : List Char}

/-- A text that is on one line, is not empty, does not end with a blank and opens no fence. -/
structure IsLine (text : List Char) : Prop where
  nonempty : text ≠ []
  single : '\n' ∉ text
  noReturn : '\r' ∉ text
  unfenced : ¬ fenceMark <:+: text
  solid : ∀ last ∈ text.getLast?, Text.isGap last = false

instance : DecidablePred IsLine := fun text =>
  decidable_of_iff (text ≠ [] ∧ '\n' ∉ text ∧ '\r' ∉ text ∧ ¬ fenceMark <:+: text ∧
      text.getLast?.all fun last => !Text.isGap last) <| by
    rw [Option.all_eq_true]
    constructor
    · rintro ⟨nonempty, single, noReturn, unfenced, solid⟩
      exact ⟨nonempty, single, noReturn, unfenced, by simpa using solid⟩
    · rintro ⟨nonempty, single, noReturn, unfenced, solid⟩
      exact ⟨nonempty, single, noReturn, unfenced, by simpa using solid⟩

/-- The text of a line is cut at the marks within it. -/
theorem tags_ofLine (named : IsTagName name) (isLine : IsLine text) :
    (ofLine (name ++ ' ' :: text)).tags = collect (name :: Text.split cutMark text) := by
  have foreign (character : Char) (notAt : character ≠ '@')
      (notWord : Text.isWord character = false) (notBlank : character ≠ ' ')
      (notText : character ∉ text) : character ∉ name ++ ' ' :: text := by
    have notName := named.not_mem notAt notWord
    simp [notName, notBlank, notText]
  have single := foreign '\n' (by decide) (by decide) (by decide) isLine.single
  have noReturn := foreign '\r' (by decide) (by decide) (by decide) isLine.noReturn
  have starts : ['@'] <+: name ++ ' ' :: text := named.isPrefix.trans (List.prefix_append _ _)
  have unstarred : ¬ ['*'] <+: name ++ ' ' :: text := by
    intro starred
    exact absurd (List.prefix_of_prefix_length_le starts starred (by simp)) (by decide)
  have unfenced : ¬ fenceMark <:+: name ++ ' ' :: text := by
    intro occurs
    rcases Text.infix_of_foreign (by decide) occurs with inName | inText
    · have noTick : '`' ∉ name := named.not_mem (by decide) (by decide)
      exact noTick (inName.subset (by decide))
    · exact isLine.unfenced inText
  have solid : ∀ last ∈ (name ++ ' ' :: text).getLast?, Text.isGap last = false := by
    rcases List.eq_nil_or_concat text with rfl | ⟨before, final, whole⟩
    · exact absurd rfl isLine.nonempty
    · rw [List.concat_eq_append] at whole
      have isSolid := isLine.solid
      rw [whole, List.getLast?_concat] at isSolid
      rw [whole, ← List.cons_append, ← List.append_assoc, List.getLast?_concat]
      exact isSolid
  have bare : Text.mapLines markBare (name ++ ' ' :: text) = name ++ ' ' :: text := by
    rw [Text.mapLines_of_not_mem single, markBare_name_append named]
  have cut : Text.mapLines markCut (name ++ ' ' :: text) =
      cutMark ++ name ++ cutMark ++ text := by
    rw [Text.mapLines_of_not_mem single, markCut_name_append named]
  rw [Comment.tags, dropMargin_ofLine single noReturn unstarred, pieces_of_isPrefix starts solid,
    shieldFences_of_absent unfenced, bare, cut, split_marked named,
    collect_cons_of_nameless (by decide)]

/-- The first piece of a text ends where the first mark stands. -/
theorem exists_split_cons (text : List Char) :
    ∃ first later, Text.split cutMark text = first :: later ∧ first <+: text ∧
      (cutMark <:+: text → first.length < text.length) := by
  obtain ⟨first, later, cut⟩ := List.exists_cons_of_ne_nil (Text.split_ne_nil cutMark text)
  have whole := Text.join_split cutMark_ne_nil text
  refine ⟨first, later, cut, ?_, ?_⟩
  · rw [← whole, cut]
    rcases later with _ | ⟨next, others⟩ <;> simp [Text.join]
  · intro occurs
    have count := Text.two_le_length_split cutMark_ne_nil occurs
    rcases later with _ | ⟨next, others⟩
    · simp [cut] at count
    · rw [← whole, cut]
      simp [Text.join, cutMark]

theorem starts_first {first : List Char} {later : List (List Char)}
    (cut : Text.split cutMark text = first :: later) (starts : ['@'] <+: text) :
    ['@'] <+: first := by
  rcases starts with ⟨rest, rfl⟩
  have notMark : ¬ cutMark <+: '@' :: rest := fun isMark =>
    absurd (List.cons_prefix_cons.1 isMark).1 (by decide)
  obtain ⟨piece, pieces, cutRest⟩ := List.exists_cons_of_ne_nil (Text.split_ne_nil cutMark rest)
  rw [List.singleton_append, Text.split_cons_of_mismatch notMark, cutRest] at cut
  rw [← (List.cons.inj cut).1]
  exact ⟨piece, rfl⟩

/--
A tag on one line is read back by its name. Its text is read back just if it does not start with
`@` and no mark occurs in it, and a text that starts with `@` is not read as its text at all.
-/
theorem text_of_line_kept_iff (named : IsTagName name) (isLine : IsLine text) :
    ((ofLine (name ++ ' ' :: text)).tags = [⟨String.ofList name, String.ofList text⟩] ↔
      ¬ ['@'] <+: text ∧ ¬ cutMark <:+: text ∧ ¬ emptyMark <:+: text ∧ ¬ shieldMark <:+: text) ∧
    (['@'] <+: text →
      ∃ later, (ofLine (name ++ ' ' :: text)).tags = ⟨String.ofList name, ""⟩ :: later) ∧
    ∃ value later, (ofLine (name ++ ' ' :: text)).tags = ⟨String.ofList name, value⟩ :: later := by
  rcases exists_split_cons text with ⟨first, later, cut, isPrefix, shorter⟩
  rw [tags_ofLine named isLine, cut]
  by_cases isName : ['@'] <+: first
  · have lost : collect (name :: first :: later) =
        ⟨String.ofList name, ""⟩ :: collect (first :: later) :=
      collect_name_name named.isPrefix isName later
    rw [lost]
    refine ⟨⟨?_, ?_⟩, fun _ => ⟨_, rfl⟩, _, _, rfl⟩
    · intro read
      have empty : String.ofList [] = String.ofList text :=
        congrArg Tag.value (List.cons.inj read).1
      exact absurd (String.ofList_inj.1 empty).symm isLine.nonempty
    · rintro ⟨notName, -⟩
      exact absurd (isName.trans isPrefix) notName
  · have kept : collect (name :: first :: later) = tagOf name first :: collect later :=
      collect_name_value named.isPrefix isName later
    have notName : ¬ ['@'] <+: text := fun starts => isName (starts_first cut starts)
    rw [kept]
    refine ⟨⟨?_, ?_⟩, fun starts => absurd starts notName, _, _, rfl⟩
    · intro read
      have same : cleanValue first = text :=
        String.ofList_inj.1 (congrArg Tag.value (List.cons.inj read).1)
      have whole : first = text :=
        isPrefix.eq_of_length_le (same ▸ length_cleanValue_le first)
      have unmarked : ¬ (emptyMark <:+: text ∨ shieldMark <:+: text) := by
        intro occurs
        rw [whole] at same
        exact absurd (congrArg List.length same) (length_cleanValue_lt occurs).ne
      rw [not_or] at unmarked
      refine ⟨notName, ?_, unmarked⟩
      intro occurs
      have := shorter occurs
      rw [whole] at this
      omega
    · rintro ⟨-, uncut, notEmpty, unshielded⟩
      rw [Text.split_of_absent uncut] at cut
      cases cut
      have clean : cleanValue text = text := by
        rw [cleanValue_of_absent notEmpty unshielded, Text.dropFirst_of_not_mem isLine.single,
          Text.dropEndWhile_of_getLast?]
        intro last isLast
        have notNewline : last ≠ '\n' := fun same =>
          isLine.single (same ▸ List.mem_of_getLast? isLast)
        simpa using notNewline
      rw [tagOf, clean]
      rfl

theorem text_of_since_line_kept : (ofLine "@since 1.2".toList).tags = [⟨"@since", "1.2"⟩] := by
  have named : IsTagName "@since".toList := by decide +kernel
  have isLine : IsLine "1.2".toList := by decide +kernel
  exact (text_of_line_kept_iff named isLine).1.2 (by decide +kernel)

/-- A scoped name is taken for a tag, and a path is cut where it looks like a mark. -/
theorem text_of_see_line_lost :
    IsTagName "@see".toList ∧ IsLine "@scope/pkg".toList ∧ IsLine "C:\\Zoo".toList ∧
    (ofLine "@see @scope/pkg".toList).tags = [⟨"@see", ""⟩, ⟨"@scope/pkg", ""⟩] ∧
    (ofLine "@see C:\\Zoo".toList).tags = [⟨"@see", "C:"⟩] := by
  decide +kernel

end DocHarvest.Comment
