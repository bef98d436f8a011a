import DocHarvest.Proofs.Comment.Tagging

/-!
# Tags written as a comment

Tags are written one after the other, each as its name, a blank and its text, behind the margin of
a block comment. If no text can be mistaken for a mark, a fence or the start of another tag, the
comment is read back as the same tags, with every text as it was.
-/

namespace DocHarvest

/-- The text of a tag in a comment. -/
def Tag.written (tag : Tag) : List Char :=
  tag.name.toList ++ ' ' :: tag.value.toList

/-- A tag whose text is only text in a comment. -/
structure Tag.Plain (tag : Tag) : Prop where
  named : Comment.IsTagName tag.name.toList
  noReturn : '\r' ∉ tag.value.toList
  unfenced : ¬ Comment.fenceMark <:+: tag.value.toList
  uncut : ¬ Comment.cutMark <:+: tag.value.toList
  notEmpty : ¬ Comment.emptyMark <:+: tag.value.toList
  unshielded : ¬ Comment.shieldMark <:+: tag.value.toList
  startsPlain : ∀ first ∈ tag.value.toList.head?, first ≠ '@' ∧ first ≠ '\n'
  endsPlain : ∀ last ∈ tag.value.toList.getLast?, last ≠ '\n'
  untagged : ∀ line ∈ (Text.lines tag.value.toList).tail, ¬ Comment.StartsTag line

instance : DecidablePred Tag.Plain := fun tag =>
  decidable_of_iff (Comment.IsTagName tag.name.toList ∧ '\r' ∉ tag.value.toList ∧
      ¬ Comment.fenceMark <:+: tag.value.toList ∧ ¬ Comment.cutMark <:+: tag.value.toList ∧
      ¬ Comment.emptyMark <:+: tag.value.toList ∧ ¬ Comment.shieldMark <:+: tag.value.toList ∧
      (tag.value.toList.head?.all fun first => first ≠ '@' ∧ first ≠ '\n') ∧
      (tag.value.toList.getLast?.all fun last => last ≠ '\n') ∧
      ∀ line ∈ (Text.lines tag.value.toList).tail, ¬ Comment.StartsTag line) <| by
    simp only [Option.all_eq_true, decide_eq_true_eq]
    constructor
    · rintro ⟨named, noReturn, unfenced, uncut, notEmpty, unshielded, starts, ends, untagged⟩
      exact ⟨named, noReturn, unfenced, uncut, notEmpty, unshielded, starts, ends, untagged⟩
    · rintro ⟨named, noReturn, unfenced, uncut, notEmpty, unshielded, starts, ends, untagged⟩
      exact ⟨named, noReturn, unfenced, uncut, notEmpty, unshielded, starts, ends, untagged⟩

namespace Comment

/-- Tags written as a block comment. -/
def rendered (tags : List Tag) : Comment :=
  ofText (Text.unlines (tags.map Tag.written))

/-- A tag as its marked text is cut. -/
def marked (tag : Tag) : List Char :=
  cutMark ++ tag.name.toList ++ cutMark ++ tag.value.toList

variable {tag : Tag} {tags : List Tag}

theorem not_mem_written (plain : tag.Plain) : '\r' ∉ tag.written := by
  have notName : '\r' ∉ tag.name.toList := plain.named.not_mem (by decide) (by decide)
  simp [Tag.written, notName, plain.noReturn]

theorem unfenced_written (plain : tag.Plain) : ¬ fenceMark <:+: tag.written := by
  intro occurs
  have noBlank : ' ' ∉ fenceMark := by decide
  rcases Text.infix_of_foreign noBlank occurs with inName | inValue
  · have noTick : '`' ∉ tag.name.toList := plain.named.not_mem (by decide) (by decide)
    exact noTick (inName.subset (by decide))
  · exact plain.unfenced inValue

theorem unfenced_flatMap_written (plain : ∀ tag ∈ tags, tag.Plain) :
    ¬ fenceMark <:+: tags.flatMap fun tag => tag.written ++ ['\n'] := by
  induction tags with
  | nil => decide
  | cons tag tags ih =>
      intro occurs
      rw [List.flatMap_cons, List.append_assoc, List.singleton_append] at occurs
      have noNewline : '\n' ∉ fenceMark := by decide
      rcases Text.infix_of_foreign noNewline occurs with inTag | inLater
      · exact unfenced_written (plain tag List.mem_cons_self) inTag
      · exact ih (fun other isOther => plain other (List.mem_cons_of_mem tag isOther)) inLater

/-- A written tag has text on its first line, and no other line of it starts a tag. -/
theorem mapLines_written {change : List Char → List Char} {before : List Char}
    (plain : tag.Plain)
    (onFirst : ∀ value, change (tag.name.toList ++ ' ' :: value) = before ++ value)
    (onLater : ∀ line, ¬ StartsTag line → change line = line) :
    Text.mapLines change tag.written = before ++ tag.value.toList := by
  obtain ⟨first, later, cut⟩ := List.exists_cons_of_ne_nil (Text.lines_ne_nil tag.value.toList)
  have single : '\n' ∉ tag.name.toList ++ [' '] := by
    have notName : '\n' ∉ tag.name.toList := plain.named.not_mem (by decide) (by decide)
    simp [notName]
  have untagged := plain.untagged
  rw [cut, List.tail_cons] at untagged
  have whole : Text.mapLines change (tag.name.toList ++ [' '] ++ tag.value.toList) =
      before ++ tag.value.toList :=
    Text.mapLines_first cut (by simpa using onFirst first)
      (fun line isLater => onLater line (untagged line isLater)) single
  rw [List.append_assoc, List.singleton_append] at whole
  exact whole

theorem mapLines_markBare_written (plain : tag.Plain) :
    Text.mapLines markBare tag.written = tag.written := by
  have onFirst (value : List Char) :
      markBare (tag.name.toList ++ ' ' :: value) = (tag.name.toList ++ [' ']) ++ value := by
    rw [markBare_name_append plain.named]
    simp
  rw [mapLines_written plain onFirst fun line => markBare_of_not_startsTag]
  simp [Tag.written]

theorem mapLines_markCut_written (plain : tag.Plain) :
    Text.mapLines markCut tag.written = marked tag :=
  mapLines_written plain (markCut_name_append plain.named) fun _ => markCut_of_not_startsTag

/-- The lines of written tags are marked tag by tag. -/
theorem mark_written (plain : ∀ tag ∈ tags, tag.Plain) :
    Text.mapLines markCut (Text.mapLines markBare
        (tags.flatMap fun tag => tag.written ++ ['\n'])) =
      tags.flatMap fun tag => marked tag ++ ['\n'] := by
  have bare : (tags.flatMap fun tag => Text.mapLines markBare tag.written ++ ['\n']) =
      tags.flatMap fun tag => tag.written ++ ['\n'] := by
    apply List.flatMap_congr
    intro tag isTag
    rw [mapLines_markBare_written (plain tag isTag)]
  have cut : (tags.flatMap fun tag => Text.mapLines markCut tag.written ++ ['\n']) =
      tags.flatMap fun tag => marked tag ++ ['\n'] := by
    apply List.flatMap_congr
    intro tag isTag
    rw [mapLines_markCut_written (plain tag isTag)]
  have nothingBare : markBare [] = [] := rfl
  have nothingCut : markCut [] = [] := rfl
  rw [Text.mapLines_flatMap_newline, bare, nothingBare, List.append_nil,
    Text.mapLines_flatMap_newline, cut, nothingCut, List.append_nil]

/-- The text of a tag is what was cut without the newline behind it. -/
theorem tagOf_written (plain : tag.Plain) :
    tagOf tag.name.toList (tag.value.toList ++ ['\n']) = tag := by
  have noNewline : '\n' ∉ emptyMark ∧ '\n' ∉ shieldMark := by decide
  have notEmpty : ¬ emptyMark <:+: tag.value.toList ++ ['\n'] := by
    intro occurs
    rcases Text.infix_of_foreign noNewline.1 occurs with inValue | inNothing
    · exact plain.notEmpty inValue
    · exact absurd (List.infix_nil.1 inNothing) (by decide)
  have unshielded : ¬ shieldMark <:+: tag.value.toList ++ ['\n'] := by
    intro occurs
    rcases Text.infix_of_foreign noNewline.2 occurs with inValue | inNothing
    · exact plain.unshielded inValue
    · exact absurd (List.infix_nil.1 inNothing) (by decide)
  have clean : cleanValue (tag.value.toList ++ ['\n']) = tag.value.toList := by
    rw [cleanValue_of_absent notEmpty unshielded]
    exact Text.dropEndWhile_dropFirst_newline
      (fun first isFirst => (plain.startsPlain first isFirst).2) plain.endsPlain
  rw [tagOf, clean, String.ofList_toList, String.ofList_toList]

/-- Marked tags are cut into their names and texts. -/
theorem exists_split_marked (plain : ∀ tag ∈ tags, tag.Plain) :
    ∃ pieces, Text.split cutMark (tags.flatMap fun tag => marked tag ++ ['\n']) = [] :: pieces ∧
      collect pieces = tags := by
  induction tags with
  | nil => exact ⟨[], rfl, rfl⟩
  | cons tag tags ih =>
      rcases ih fun other isOther => plain other (List.mem_cons_of_mem tag isOther) with
        ⟨pieces, cut, collected⟩
      have plainTag := plain tag List.mem_cons_self
      have noNewline : '\n' ∉ cutMark := by decide
      have clear : Text.Clear cutMark (tag.value.toList ++ ['\n'])
          (tags.flatMap fun tag => marked tag ++ ['\n']) := by
        rw [Text.clear_append]
        constructor
        · exact Text.Clear.of_foreign noNewline plainTag.uncut
        · exact Text.Clear.of_head? rfl (by decide)
      have isValue : ¬ ['@'] <+: tag.value.toList ++ ['\n'] := by
        intro isName
        rcases value_eq : tag.value.toList with _ | ⟨first, rest⟩
        · rw [value_eq] at isName
          revert isName
          decide
        · rw [value_eq, List.cons_append, List.cons_prefix_cons] at isName
          exact (plainTag.startsPlain first (by simp [value_eq])).1 isName.1.symm
      refine ⟨tag.name.toList :: (tag.value.toList ++ ['\n']) :: pieces, ?_, ?_⟩
      · rw [List.flatMap_cons, marked, List.append_assoc, List.append_assoc,
          split_marked plainTag.named, ← List.append_assoc, Text.split_append clear, cut,
          Text.foldr_extendFirst, List.append_nil]
      · rw [collect_name_value plainTag.named.isPrefix isValue, tagOf_written plainTag, collected]

/-- Tags that are written as a comment are read back from it, in order and with all their texts. -/
theorem tags_rendered (nonempty : tags ≠ []) (plain : ∀ tag ∈ tags, tag.Plain) :
    (rendered tags).tags = tags := by
  have whole := Text.unlines_append_newline Tag.written nonempty
  have starts : ['@'] <+: Text.unlines (tags.map Tag.written) := by
    obtain ⟨tag, later, rfl⟩ := List.exists_cons_of_ne_nil nonempty
    apply (plain tag List.mem_cons_self).named.isPrefix.trans
    rcases later with _ | ⟨next, others⟩ <;> simp [Text.unlines, Text.join, Tag.written]
  have unstarred : ¬ ['*'] <+: Text.unlines (tags.map Tag.written) := by
    intro starred
    have same := List.prefix_of_prefix_length_le starts starred (by simp)
    exact absurd same (by decide)
  have noReturn : '\r' ∉ Text.unlines (tags.map Tag.written) := by
    intro isIn
    have isInBlocks := List.mem_append_left ['\n'] isIn
    rw [whole] at isInBlocks
    rcases List.mem_flatMap.1 isInBlocks with ⟨tag, isTag, isInTag⟩
    rcases List.mem_append.1 isInTag with isInTag | isNewline
    · exact not_mem_written (plain tag isTag) isInTag
    · exact absurd isNewline (by decide)
  have solid : ∀ last ∈ (Text.unlines (tags.map Tag.written) ++ ['\n']).getLast?,
      Text.isGap last = false := by
    rw [List.getLast?_concat]
    rintro last ⟨⟩
    decide
  rcases exists_split_marked plain with ⟨pieces, cut, collected⟩
  rw [Comment.tags, rendered, dropMargin_ofText noReturn unstarred,
    pieces_of_isPrefix (starts.trans (List.prefix_append _ _)) solid, whole,
    shieldFences_of_absent (unfenced_flatMap_written plain), mark_written plain, cut,
    collect_cons_of_nameless (by decide), collected]

theorem tags_rendered_description :
    (rendered [⟨"@desc", "first line\n  second line\n\n* starred"⟩, ⟨"@see", ""⟩]).tags =
      [⟨"@desc", "first line\n  second line\n\n* starred"⟩, ⟨"@see", ""⟩] := by
  apply tags_rendered (List.cons_ne_nil _ _)
  intro tag isTag
  rcases List.mem_cons.1 isTag with rfl | isTag
  · decide +kernel
  · rw [List.mem_singleton.1 isTag]
    decide +kernel

end Comment

end DocHarvest
