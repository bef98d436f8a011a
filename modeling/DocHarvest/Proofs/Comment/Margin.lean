import DocHarvest.Comment.Tags
import DocHarvest.Proofs.Text.Lines

/-!
# The margin of a comment

A text is written as a block comment behind a margin of stars, over several lines or on one. What
is left when the margin is dropped is the text again. Only a star at the start of the text would be
taken for the margin; later lines may start with stars and blanks of their own.
-/

namespace DocHarvest.Comment

variable {text first : List Char} {later : List (List Char)}

/-- A block comment with one line, after a star and a blank, for every line of a text. -/
def ofText (text : List Char) : Comment :=
  { kind := .block
    text := String.ofList ('*' :: ' ' :: Text.spread [' ', '*', ' '] text ++ ['\n', ' ']) }

/-- A block comment on one line. -/
def ofLine (line : List Char) : Comment :=
  { kind := .block, text := String.ofList ('*' :: ' ' :: line ++ [' ']) }

theorem dropStar_of_unstarred (unstarred : ¬ ['*'] <+: text) : dropStar text = text := by
  rcases text with _ | ⟨first, rest⟩
  · rfl
  · have different : first ≠ '*' := by
      rintro rfl
      exact unstarred ⟨rest, rfl⟩
    unfold dropStar
    split
    · next isStar => exact absurd (List.cons.inj isStar).1 different
    · next isStar => exact absurd (List.cons.inj isStar).1 different
    · rfl

theorem dropFinalGap_append (text : List Char) (last : Char) :
    dropFinalGap (text ++ [last]) = if Text.isGap last then text else text ++ [last] := by
  simp [dropFinalGap]

theorem unify_of_not_mem (noReturn : '\r' ∉ text) :
    Text.replaceAll ['\r', '\n'] ['\n'] text = text := by
  apply Text.replaceAll_of_absent
  intro occurs
  exact noReturn (occurs.subset List.mem_cons_self)

theorem not_mem_spread {margin : List Char} {character : Char} (notMargin : character ∉ margin)
    (notText : character ∉ text) : character ∉ Text.spread margin text := by
  intro isIn
  rcases List.mem_flatMap.1 isIn with ⟨source, inText, isIn⟩
  split at isIn
  · next newline =>
    rcases List.mem_cons.1 isIn with rfl | inMargin
    · exact notText (newline ▸ inText)
    · exact notMargin inMargin
  · exact notText (List.mem_singleton.1 isIn ▸ inText)

/-- The indentation is dropped up to the stars. -/
theorem outdent_spread (cut : Text.lines text = first :: later) :
    Text.mapLines (·.dropWhile Text.isGap)
        ('*' :: ' ' :: Text.spread [' ', '*', ' '] text ++ ['\n', ' ']) =
      '*' :: ' ' :: Text.spread ['*', ' '] text ++ ['\n'] := by
  rw [Text.mapLines_append_newline]
  have framed : Text.mapLines (·.dropWhile Text.isGap)
      (['*', ' '] ++ Text.spread [' ', '*', ' '] text) =
        ['*', ' '] ++ Text.spread ['*', ' '] text :=
    Text.mapLines_spread cut rfl (fun _ _ => rfl) (by decide) (by decide)
  rw [List.cons_append, List.cons_append, List.nil_append] at framed
  rw [framed]
  rfl

/-- The stars of the later lines are dropped, and the first line has none. -/
theorem unstar_spread (cut : Text.lines text = first :: later) (unstarred : ¬ ['*'] <+: first) :
    Text.mapLines dropStar (Text.spread ['*', ' '] text ++ ['\n']) = text ++ ['\n'] := by
  rw [Text.mapLines_append_newline]
  have bare : Text.mapLines dropStar ([] ++ Text.spread ['*', ' '] text) =
      [] ++ Text.spread [] text :=
    Text.mapLines_spread cut (dropStar_of_unstarred unstarred) (fun _ _ => rfl) (by decide)
      (by decide)
  rw [List.nil_append, List.nil_append, Text.spread_nil] at bare
  rw [bare]
  rfl

theorem dropMargin_ofText (noReturn : '\r' ∉ text) (unstarred : ¬ ['*'] <+: text) :
    dropMargin (ofText text).text.toList = text ++ ['\n'] := by
  obtain ⟨first, later, cut⟩ := List.exists_cons_of_ne_nil (Text.lines_ne_nil text)
  have unstarredFirst : ¬ ['*'] <+: first :=
    fun starred => unstarred (starred.trans (Text.isPrefix_of_lines cut))
  have noReturnFramed :
      '\r' ∉ '*' :: ' ' :: Text.spread [' ', '*', ' '] text ++ ['\n', ' '] := by
    have inside : '\r' ∉ Text.spread [' ', '*', ' '] text := not_mem_spread (by decide) noReturn
    simp [inside]
  have unframed : dropFinalGap (dropStar ('*' :: ' ' :: Text.spread ['*', ' '] text ++ ['\n'])) =
      Text.spread ['*', ' '] text ++ ['\n'] :=
    dropFinalGap_append (Text.spread ['*', ' '] text) '\n'
  simp only [dropMargin, ofText, String.toList_ofList]
  rw [unify_of_not_mem noReturnFramed, outdent_spread cut, unframed,
    unstar_spread cut unstarredFirst]

theorem dropMargin_ofLine (single : '\n' ∉ text) (noReturn : '\r' ∉ text)
    (unstarred : ¬ ['*'] <+: text) : dropMargin (ofLine text).text.toList = text := by
  have noReturnFramed : '\r' ∉ '*' :: ' ' :: text ++ [' '] := by simp [noReturn]
  have singleFramed : '\n' ∉ '*' :: ' ' :: text ++ [' '] := by simp [single]
  have unframed : dropFinalGap (dropStar ('*' :: ' ' :: text ++ [' '])) = text :=
    dropFinalGap_append text ' '
  simp only [dropMargin, ofLine, String.toList_ofList]
  rw [unify_of_not_mem noReturnFramed, Text.mapLines_of_not_mem singleFramed]
  change Text.mapLines dropStar (dropFinalGap (dropStar ('*' :: ' ' :: text ++ [' ']))) = text
  rw [unframed, Text.mapLines_of_not_mem single, dropStar_of_unstarred unstarred]

end DocHarvest.Comment
