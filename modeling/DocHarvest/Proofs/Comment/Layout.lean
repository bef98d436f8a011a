import DocHarvest.Proofs.Comment.Tagging

/-!
# The layout of a comment

A comment that holds nothing but tags may have the first of them beside the marks that open it, or
on a later line. In the second case what is left without the margin starts with a newline and not
with a tag: the text gets the tag `@desc` in front, and this tag is empty.
-/

namespace DocHarvest.Comment

variable {comment : Comment} {text row value : List Char} {above : Nat}

/-! ## The rows of a comment -/

/-- The text of a comment without indentation, stars, and blanks at its end. -/
def body (comment : Comment) : List Char :=
  Text.dropEndWhile Text.isGap (Text.mapLines (fun line => dropStar (line.dropWhile Text.isGap))
    (Text.replaceAll ['\r', '\n'] ['\n'] comment.text.toList))

/-- The lines of a comment without their margin, where code in a fence is shielded. -/
def rows (comment : Comment) : List (List Char) :=
  Text.lines (shieldFences comment.body)

/--
The tag that a row starts with, and the text next to it, where the text of a bare tag is its mark.
-/
def rowTag? (row : List Char) : Option (List Char × List Char) :=
  match lineTag? row with
  | some (name, []) => some (name, emptyMark)
  | some (name, gap :: text) => if Text.isGap gap then some (name, text) else none
  | none => none

/-- The name of a description. -/
def descName : List Char := "@desc".toList

/--
A comment of tags without a description, with empty rows above the first of them. The first tag is
not indented beside the marks, and no text looks like a mark or like the name of a description.
-/
structure HoldsTags (comment : Comment) (above : Nat) : Prop where
  shape : ∃ tagged, comment.rows = List.replicate above [] ++ tagged ∧
    ∀ row ∈ tagged.head?, StartsTag row
  flush : above = 0 → ∀ row ∈ comment.rows.head?, ['@'] <+: row
  uncut : ∀ row ∈ comment.rows, ¬ cutMark <:+: row
  others : ∀ row ∈ comment.rows, ∀ tag ∈ rowTag? row, tag.1 ≠ descName ∧ tag.2 ≠ descName

theorem isSome_rowTag? (starts : StartsTag row) : (rowTag? row).isSome := by
  rw [startsTag_iff] at starts
  rcases tagged : lineTag? row with _ | ⟨name, _ | ⟨gap, text⟩⟩
  · simp [tagged] at starts
  · simp [rowTag?, tagged]
  · have isGap : Text.isGap gap := by simpa [tagged] using starts
    simp [rowTag?, tagged, isGap]

/-! ## The margin -/

theorem isGap_newline : Text.isGap '\n' = false :=
  rfl

theorem ne_of_isGap {gap : Char} (isGap : Text.isGap gap) : gap ≠ '\n' ∧ gap ≠ '*' := by
  constructor
  · rintro rfl
    cases isGap
  · rintro rfl
    cases isGap

theorem dropStar_suffix (line : List Char) : dropStar line <:+ line := by
  unfold dropStar
  split
  · split
    · exact ⟨['*', _], rfl⟩
    · exact List.suffix_cons _ _
  · exact List.nil_suffix
  · exact List.suffix_rfl

theorem dropStar_append_newline (line rest : List Char) :
    dropStar (line ++ '\n' :: rest) = dropStar line ++ '\n' :: rest := by
  by_cases starred : ['*'] <+: line
  · rcases starred with ⟨_ | ⟨next, after⟩, rfl⟩
    · rfl
    · cases isGap : Text.isGap next <;> simp [dropStar, isGap]
  · have unstarred : ¬ ['*'] <+: line ++ '\n' :: rest := by cases line <;> simp_all
    rw [dropStar_of_unstarred starred, dropStar_of_unstarred unstarred]

theorem trimmed_dropStar_concat {gap : Char} (isGap : Text.isGap gap) (line : List Char) :
    Text.dropEndWhile Text.isGap (dropStar (line ++ [gap])) =
      Text.dropEndWhile Text.isGap (dropStar line) := by
  by_cases starred : ['*'] <+: line
  · rcases starred with ⟨_ | ⟨next, after⟩, rfl⟩
    · simp [dropStar, isGap]
    · have dropped : dropStar (['*'] ++ next :: after ++ [gap]) =
          dropStar (['*'] ++ next :: after) ++ [gap] := by
        cases isGapToo : Text.isGap next <;> simp [dropStar, isGapToo]
      rw [dropped, Text.dropEndWhile_concat isGap]
  · have unstarred : ¬ ['*'] <+: line ++ [gap] := by
      have notStar := (ne_of_isGap isGap).2.symm
      cases line <;> simp_all
    rw [dropStar_of_unstarred starred, dropStar_of_unstarred unstarred,
      Text.dropEndWhile_concat isGap]

/-- A blank at the end of the last line is dropped before or after its star. -/
theorem trimmed_unstar_concat {gap : Char} (isGap : Text.isGap gap) (text : List Char) :
    Text.dropEndWhile Text.isGap (Text.mapLines dropStar (text ++ [gap])) =
      Text.dropEndWhile Text.isGap (Text.mapLines dropStar text) := by
  induction text using Text.lines_induction with
  | last line single =>
      have singleToo : '\n' ∉ line ++ [gap] := by
        simp [single, (ne_of_isGap isGap).1.symm]
      rw [Text.mapLines_of_not_mem single, Text.mapLines_of_not_mem singleToo,
        trimmed_dropStar_concat isGap]
  | more line rest single ih =>
      rw [List.append_assoc, List.cons_append, Text.mapLines_line_append single,
        Text.mapLines_line_append single, Text.dropEndWhile_append_cons isGap_newline,
        Text.dropEndWhile_append_cons isGap_newline, ih]

theorem trimmed_unstar_dropFinalGap (text : List Char) :
    Text.dropEndWhile Text.isGap (Text.mapLines dropStar (dropFinalGap text)) =
      Text.dropEndWhile Text.isGap (Text.mapLines dropStar text) := by
  rcases List.eq_nil_or_concat text with rfl | ⟨before, last, rfl⟩
  · rfl
  · rw [List.concat_eq_append, dropFinalGap_append]
    split
    · next isGap => rw [trimmed_unstar_concat isGap]
    · rfl

/-- A star of the first line is dropped twice, but for a second star that makes no difference. -/
theorem unstar_dropStar (unstarred : ¬ ['*'] <+: Text.mapLines dropStar text) :
    Text.mapLines dropStar (dropStar text) = Text.mapLines dropStar text := by
  have kept {line : List Char} (single : '\n' ∉ line) : '\n' ∉ dropStar line :=
    fun isIn => single ((dropStar_suffix line).subset isIn)
  cases text using Text.lines_induction with
  | last line single =>
      rw [Text.mapLines_of_not_mem single] at unstarred ⊢
      rw [Text.mapLines_of_not_mem (kept single), dropStar_of_unstarred unstarred]
  | more line rest single =>
      rw [Text.mapLines_line_append single] at unstarred ⊢
      have unstarredLine : ¬ ['*'] <+: dropStar line :=
        fun starred => unstarred (starred.trans (List.prefix_append _ _))
      rw [dropStar_append_newline, Text.mapLines_line_append (kept single),
        dropStar_of_unstarred unstarredLine]

/-- Up to blanks at its end, the text without its margin is that of the lines without theirs. -/
theorem trimmed_dropMargin (unstarred : ¬ ['*'] <+: comment.body) :
    Text.dropEndWhile Text.isGap (dropMargin comment.text.toList) = comment.body := by
  have single (line : List Char) (isLine : '\n' ∉ line) : '\n' ∉ line.dropWhile Text.isGap :=
    fun isIn => isLine ((List.dropWhile_suffix _).subset isIn)
  unfold body at unstarred ⊢
  rw [← Text.mapLines_mapLines single] at unstarred ⊢
  rw [Text.isPrefix_dropEndWhile (by decide)] at unstarred
  rw [dropMargin, trimmed_unstar_dropFinalGap, unstar_dropStar unstarred]

/-! ## Fences -/

theorem shieldFenced_ne_nil {pieces : List (List Char)} (nonempty : pieces ≠ []) :
    shieldFenced pieces ≠ [] := by
  rcases pieces with _ | ⟨outside, _ | ⟨inside, _ | ⟨next, rest⟩⟩⟩ <;> simp_all [shieldFenced]

theorem shieldFenced_extendFirst {pieces : List (List Char)} (nonempty : pieces ≠ [])
    (before : List Char) :
    shieldFenced (before.foldr Text.extendFirst pieces) =
      before.foldr Text.extendFirst (shieldFenced pieces) := by
  rcases pieces with _ | ⟨outside, _ | ⟨inside, _ | ⟨next, rest⟩⟩⟩ <;>
    simp_all [shieldFenced, Text.foldr_extendFirst]

/-- A part of a text in which no fence opens is left as it is. -/
theorem shieldFences_append {before rest : List Char}
    (clear : Text.Clear fenceMark before rest) :
    shieldFences (before ++ rest) = before ++ shieldFences rest := by
  have nonempty := Text.split_ne_nil fenceMark rest
  rw [shieldFences, Text.split_append clear, shieldFenced_extendFirst nonempty,
    Text.join_foldr_extendFirst _ (shieldFenced_ne_nil nonempty)]
  rfl

theorem head?_shieldFences (text : List Char) : (shieldFences text).head? = text.head? := by
  by_cases opens : fenceMark <+: text
  · rcases opens with ⟨rest, rfl⟩
    obtain ⟨inside, later, cut⟩ := List.exists_cons_of_ne_nil (Text.split_ne_nil fenceMark rest)
    rw [shieldFences, Text.split_mark_append (by decide), cut]
    cases later <;> simp [shieldFenced, Text.join, fenceMark]
  · rcases text with _ | ⟨first, text⟩
    · rfl
    · have clear : Text.Clear fenceMark [first] text := by
        rw [Text.clear_cons]
        exact ⟨opens, Text.clear_nil⟩
      rw [← List.singleton_append, shieldFences_append clear]
      rfl

/-! ## Marked rows -/

/-- A row with the marks at its tag. -/
def markRow (row : List Char) : List Char :=
  markCut (markBare row)

theorem newline_not_mem_markBare (single : '\n' ∉ row) : '\n' ∉ markBare row := by
  unfold markBare
  split
  · next name tagged =>
    rcases exists_of_lineTag? tagged with ⟨-, -, -, named⟩
    have notName : '\n' ∉ name := named.not_mem (by decide) (by decide)
    simp [notName, emptyMark]
  · exact single

theorem markRow_of_rowTag?_eq_none (untagged : rowTag? row = none) : markRow row = row := by
  have notTagged : ¬ StartsTag row := by
    intro starts
    simpa [untagged] using isSome_rowTag? starts
  rw [markRow, markBare_of_not_startsTag notTagged, markCut_of_not_startsTag notTagged]

/--
How a tag is read from a row: its name is one, marks stand around it, and its text is in the row.
-/
theorem markRow_of_rowTag? {name : List Char} (tagged : rowTag? row = some (name, value)) :
    IsTagName name ∧ markRow row = cutMark ++ name ++ cutMark ++ value ∧
      (value = emptyMark ∨ value <:+ row) := by
  unfold rowTag? at tagged
  split at tagged
  · next name read =>
    cases tagged
    rcases exists_of_lineTag? read with ⟨-, -, -, named⟩
    have bare : markBare row = name ++ ' ' :: emptyMark := by simp [markBare, read]
    exact ⟨named, by rw [markRow, bare, markCut_name_append named], Or.inl rfl⟩
  · next name gap text read =>
    split at tagged
    · next isGap =>
      cases tagged
      rcases exists_of_lineTag? read with ⟨before, whole, -, named⟩
      have kept : markBare row = row := by simp [markBare, read]
      refine ⟨named, by simp [markRow, kept, markCut, read, isGap], Or.inr ?_⟩
      exact ⟨before ++ (name ++ [gap]), by simp [whole]⟩
    · cases tagged
  · cases tagged

/-- A row is cut around the name of its tag. -/
theorem split_markRow_append {after : List Char} (uncut : ¬ cutMark <:+: row)
    (ends : after = [] ∨ ∃ rest, after = '\n' :: rest) :
    Text.split cutMark (markRow row ++ after) =
      match rowTag? row with
      | none => row.foldr Text.extendFirst (Text.split cutMark after)
      | some (name, value) =>
          [] :: name :: value.foldr Text.extendFirst (Text.split cutMark after) := by
  have clear {text : List Char} (absent : ¬ cutMark <:+: text) : Text.Clear cutMark text after := by
    rcases ends with rfl | ⟨rest, rfl⟩
    · exact .of_absent absent
    · exact .of_foreign (by decide) absent
  rcases tagged : rowTag? row with _ | ⟨name, value⟩
  · rw [markRow_of_rowTag?_eq_none tagged, Text.split_append (clear uncut)]
  · rcases markRow_of_rowTag? tagged with ⟨named, isMarked, source⟩
    have uncutValue : ¬ cutMark <:+: value := by
      rcases source with rfl | isSuffix
      · decide
      · exact fun occurs => uncut (occurs.trans isSuffix.isInfix)
    rw [isMarked, List.append_assoc, split_marked named, Text.split_append (clear uncutValue)]

/-! ## The pieces of a comment of tags -/

/-- Where a text without descriptions is cut: what is in front of the first tag, and the rest. -/
structure CutAt (text first : List Char) (later : List (List Char)) : Prop where
  cut : Text.split cutMark (Text.mapLines markRow text) = first :: later
  others : descName ∉ later
  blank : ∀ above tagged, Text.lines text = List.replicate above [] ++ tagged →
    (∀ row ∈ tagged.head?, StartsTag row) → ∀ character ∈ first, character = '\n'

/-- A row above the first tag is empty. -/
theorem eq_nil_of_rowTag?_eq_none {later tagged : List (List Char)}
    (untagged : rowTag? row = none) (whole : row :: later = List.replicate above [] ++ tagged)
    (starts : ∀ row ∈ tagged.head?, StartsTag row) :
    row = [] ∧ ∃ fewer, later = List.replicate fewer [] ++ tagged := by
  cases above with
  | zero =>
      rw [List.replicate_zero, List.nil_append] at whole
      have isTagged := isSome_rowTag? (starts row (by rw [← whole]; rfl))
      rw [untagged] at isTagged
      cases isTagged
  | succ fewer =>
      rcases List.cons.inj whole with ⟨isEmpty, rest⟩
      exact ⟨isEmpty, fewer, rest⟩

theorem exists_cutAt (uncut : ∀ row ∈ Text.lines text, ¬ cutMark <:+: row)
    (others : ∀ row ∈ Text.lines text, ∀ tag ∈ rowTag? row,
      tag.1 ≠ descName ∧ tag.2 ≠ descName) : ∃ first later, CutAt text first later := by
  induction text using Text.lines_induction with
  | last row single =>
      rw [Text.lines_of_not_mem single] at uncut others
      have cut := split_markRow_append (uncut row (by simp)) (Or.inl rfl)
      have nothing : Text.split cutMark [] = [[]] := rfl
      have whole : Text.mapLines markRow row = markRow row := Text.mapLines_of_not_mem single
      rw [List.append_nil, nothing, ← whole] at cut
      rcases tagged : rowTag? row with _ | ⟨name, value⟩
      · simp only [tagged, Text.foldr_extendFirst, List.append_nil] at cut
        refine ⟨row, [], cut, by simp, ?_⟩
        intro above rows shape starts
        rw [Text.lines_of_not_mem single] at shape
        simp [(eq_nil_of_rowTag?_eq_none tagged shape starts).1]
      · simp only [tagged, Text.foldr_extendFirst, List.append_nil] at cut
        have other := others row (by simp) _ tagged
        exact ⟨[], [name, value], cut, by simp [other.1.symm, other.2.symm], by simp⟩
  | more row rest single ih =>
      rw [Text.lines_append_newline single, List.forall_mem_cons] at uncut others
      rcases ih uncut.2 others.2 with ⟨first, later, rested⟩
      have newline : Text.split cutMark ('\n' :: Text.mapLines markRow rest) =
          ('\n' :: first) :: later := by
        rw [Text.split_cons_of_mismatch (by simp [cutMark]), rested.cut]
        rfl
      have cut := split_markRow_append uncut.1 (Or.inr ⟨Text.mapLines markRow rest, rfl⟩)
      rw [newline, ← Text.mapLines_line_append single] at cut
      rcases tagged : rowTag? row with _ | ⟨name, value⟩
      · simp only [tagged, Text.foldr_extendFirst] at cut
        refine ⟨row ++ '\n' :: first, later, cut, rested.others, ?_⟩
        intro above rows shape starts
        rw [Text.lines_append_newline single] at shape
        rcases eq_nil_of_rowTag?_eq_none tagged shape starts with ⟨rfl, fewer, shapeToo⟩
        simpa using rested.blank fewer rows shapeToo starts
      · simp only [tagged, Text.foldr_extendFirst] at cut
        have other := others.1 _ tagged
        refine ⟨[], name :: (value ++ '\n' :: first) :: later, cut, ?_, by simp⟩
        have noNewline : '\n' ∉ descName := by decide
        have notValue : descName ≠ value ++ '\n' :: first := by
          intro same
          simp [same] at noNewline
        simp [other.1.symm, notValue, rested.others]

/-! ## The tags of a comment of tags -/

theorem name_mem_of_mem_collect {pieces : List (List Char)} {tag : Tag}
    (isTag : tag ∈ collect pieces) : tag.name.toList ∈ pieces := by
  have here (name value : List Char) : (tagOf name value).name.toList = name := String.toList_ofList
  fun_induction collect pieces with
  | case1 => cases isTag
  | case2 piece => simp [List.mem_singleton.1 isTag, here]
  | case3 => cases isTag
  | case4 piece next rest _ _ ih =>
      rcases List.mem_cons.1 isTag with rfl | isLater
      · simp [here]
      · exact List.mem_cons_of_mem piece (ih isLater)
  | case5 piece next rest _ _ ih =>
      rcases List.mem_cons.1 isTag with rfl | isLater
      · simp [here]
      · exact List.mem_cons_of_mem piece (List.mem_cons_of_mem next (ih isLater))
  | case6 piece next rest _ ih => exact List.mem_cons_of_mem piece (ih isTag)

theorem named_desc_collect {pieces : List (List Char)} (absent : descName ∉ pieces) :
    Tag.named ["@desc"] (collect pieces) = [] := by
  apply List.filter_eq_nil_iff.2
  intro tag isTag
  have isPiece := name_mem_of_mem_collect isTag
  simp only [List.contains_cons, List.contains_nil, Bool.or_false, beq_iff_eq]
  intro same
  rw [same] at isPiece
  exact absent isPiece

theorem cleanValue_newlines (blank : ∀ character ∈ value, character = '\n') :
    cleanValue value = [] := by
  have noMark : '\\' ∉ value := by
    intro isIn
    cases blank _ isIn
  have notEmpty : ¬ emptyMark <:+: value := fun occurs => noMark (occurs.subset (by decide))
  have unshielded : ¬ shieldMark <:+: value := fun occurs => noMark (occurs.subset (by decide))
  rw [cleanValue_of_absent notEmpty unshielded, Text.dropEndWhile, List.reverse_eq_nil_iff,
    List.dropWhile_eq_nil_iff]
  intro character isIn
  have isKept : character ∈ value := by
    cases value with
    | nil => simp [Text.dropFirst] at isIn
    | cons first rest => simpa [Text.dropFirst, blank first] using Or.inr isIn
  simp [blank character isKept]

/-- The tags of a comment are collected from its text with the rows marked. -/
theorem tags_eq_collect (unstarred : ¬ ['*'] <+: comment.body) :
    comment.tags = collect (Text.split cutMark (Text.mapLines markRow (shieldFences
      (Text.dropEndWhile Text.isGap (withTag comment.body))))) := by
  have single (row : List Char) : '\n' ∉ row → '\n' ∉ markBare row := newline_not_mem_markBare
  have tagged : ['@'] <+: comment.body ↔ ['@'] <+: dropMargin comment.text.toList := by
    rw [← trimmed_dropMargin unstarred, Text.isPrefix_dropEndWhile (by decide)]
  have trimmed : Text.dropEndWhile Text.isGap (withTag (dropMargin comment.text.toList)) =
      Text.dropEndWhile Text.isGap (withTag comment.body) := by
    simp only [withTag, List.isPrefixOf_iff_prefix, tagged]
    split
    · rw [← trimmed_dropMargin unstarred, Text.dropEndWhile_idem]
    · rw [← trimmed_dropMargin unstarred, Text.dropEndWhile_append_dropEndWhile]
  rw [tags, pieces, trimmed, Text.mapLines_mapLines single]
  rfl

/-- A comment with its first tag on a later line is empty or starts with a newline. -/
theorem exists_body_of_replicate {tagged : List (List Char)}
    (shape : comment.rows = List.replicate (above + 1) [] ++ tagged) :
    comment.body = [] ∨ ∃ rest, comment.body = '\n' :: rest := by
  have starts : ∀ first ∈ (shieldFences comment.body).head?, first = '\n' := by
    rw [rows, List.replicate_succ, List.cons_append] at shape
    intro first isFirst
    cases whole : shieldFences comment.body using Text.lines_induction with
    | last row single =>
        rw [whole, Text.lines_of_not_mem single] at shape
        simp [whole, (List.cons.inj shape).1] at isFirst
    | more row rest single =>
        rw [whole, Text.lines_append_newline single] at shape
        simpa [whole, (List.cons.inj shape).1, eq_comm] using isFirst
  rw [head?_shieldFences] at starts
  cases whole : comment.body with
  | nil => exact Or.inl rfl
  | cons first rest =>
      rw [whole] at starts
      exact Or.inr ⟨rest, by rw [starts first rfl]⟩

theorem HoldsTags.exists_cutAt (holds : comment.HoldsTags above) :
    ∃ first later, CutAt (shieldFences comment.body) first later ∧
      ∀ character ∈ first, character = '\n' := by
  rcases Comment.exists_cutAt holds.uncut holds.others with ⟨first, later, cutAt⟩
  rcases holds.shape with ⟨tagged, shape, starts⟩
  exact ⟨first, later, cutAt, cutAt.blank above tagged shape starts⟩

theorem trimmed_body (comment : Comment) :
    Text.dropEndWhile Text.isGap comment.body = comment.body :=
  Text.dropEndWhile_idem _ _

/-- Tags that start beside the marks are all the tags there are. -/
theorem HoldsTags.named_desc_of_flush (holds : comment.HoldsTags 0) :
    Tag.named ["@desc"] comment.tags = [] := by
  have starts : ['@'] <+: comment.body := by
    obtain ⟨row, later, cut⟩ :=
      List.exists_cons_of_ne_nil (Text.lines_ne_nil (shieldFences comment.body))
    have flush : ['@'] <+: row := holds.flush rfl row (by rw [rows, cut]; rfl)
    have shielded := flush.trans (Text.isPrefix_of_lines cut)
    rwa [Text.singleton_isPrefix_iff, head?_shieldFences, ← Text.singleton_isPrefix_iff] at shielded
  have unstarred : ¬ ['*'] <+: comment.body := fun starred =>
    absurd (List.prefix_of_prefix_length_le starts starred (by simp)) (by decide)
  have tagged : withTag comment.body = comment.body := if_pos (List.isPrefixOf_iff_prefix.2 starts)
  rcases holds.exists_cutAt with ⟨first, later, cutAt, blank⟩
  have nameless : ¬ ['@'] <+: first := by
    intro isName
    cases blank '@' (isName.subset List.mem_cons_self)
  rw [tags_eq_collect unstarred, tagged, trimmed_body, cutAt.cut, collect_cons_of_nameless nameless,
    named_desc_collect cutAt.others]

theorem shieldFences_newline (rest : List Char) :
    shieldFences ('\n' :: rest) = '\n' :: shieldFences rest := by
  have opens : fenceMark.head? = some '`' := by decide
  have clear : Text.Clear fenceMark ['\n'] rest := .of_head? opens (by decide)
  exact shieldFences_append clear

theorem mapLines_markRow_desc (rest : List Char) :
    Text.mapLines markRow ("@desc ".toList ++ '\n' :: rest) =
      cutMark ++ descName ++ cutMark ++ Text.mapLines markRow ('\n' :: rest) := by
  have isMarked : markRow "@desc ".toList = cutMark ++ descName ++ cutMark := by decide +kernel
  have below : Text.mapLines markRow ([] ++ '\n' :: rest) =
      [] ++ '\n' :: Text.mapLines markRow rest :=
    Text.mapLines_line_append (by decide) rest
  rw [List.nil_append] at below
  rw [Text.mapLines_line_append (by decide), isMarked, below]
  rfl

/-- A comment that starts with a newline is cut as it is behind a description. -/
theorem tags_of_newline {rest : List Char} (whole : comment.body = '\n' :: rest) :
    comment.tags = collect ([] :: descName ::
      Text.split cutMark (Text.mapLines markRow (shieldFences comment.body))) := by
  have unstarred : ¬ ['*'] <+: comment.body := by simp [whole]
  have untagged : withTag comment.body = "@desc ".toList ++ comment.body := by
    simp [withTag, whole]
  have trimmed : Text.dropEndWhile Text.isGap ("@desc ".toList ++ comment.body) =
      "@desc ".toList ++ comment.body := by
    have isTrimmed := Text.dropEndWhile_append_cons isGap_newline [] rest
    rw [List.nil_append, ← whole, trimmed_body] at isTrimmed
    rw [isTrimmed, List.nil_append, Text.dropEndWhile_append_cons isGap_newline,
      Text.dropEndWhile_idem]
  have opens : fenceMark.head? = some '`' := by decide
  have shielded : shieldFences ("@desc ".toList ++ comment.body) =
      "@desc ".toList ++ shieldFences comment.body :=
    shieldFences_append (.of_head? opens (by decide))
  rw [tags_eq_collect unstarred, untagged, trimmed, shielded, whole, shieldFences_newline,
    mapLines_markRow_desc, split_marked (by decide)]

/-- In front of tags that start on a later line there is an empty description. -/
theorem HoldsTags.named_desc_of_below (holds : comment.HoldsTags (above + 1)) :
    Tag.named ["@desc"] comment.tags = [⟨"@desc", ""⟩] := by
  rcases holds.shape with ⟨tagged, shape, -⟩
  rcases exists_body_of_replicate shape with empty | ⟨rest, whole⟩
  · rw [tags_eq_collect (by simp [empty]), empty]
    decide +kernel
  · rcases holds.exists_cutAt with ⟨first, later, cutAt, blank⟩
    have nameless : ¬ ['@'] <+: first := by
      intro isName
      cases blank '@' (isName.subset List.mem_cons_self)
    have isEmpty : tagOf descName first = ⟨"@desc", ""⟩ := by
      rw [tagOf, cleanValue_newlines blank]
      decide +kernel
    have others := named_desc_collect cutAt.others
    rw [tags_of_newline whole, cutAt.cut, collect_cons_of_nameless (by decide),
      collect_name_value (by decide) nameless, isEmpty]
    unfold Tag.named at others ⊢
    rw [List.filter_cons_of_pos (by decide), others]

/--
A comment of tags has no description if the first tag stands beside the marks, and otherwise an
empty one.
-/
theorem lastValue?_desc_of_holdsTags (holds : comment.HoldsTags above) :
    Tag.lastValue? ["@desc"] comment.tags = if above = 0 then none else some "" := by
  cases above with
  | zero => simp [Tag.lastValue?, Tag.last?, holds.named_desc_of_flush]
  | succ above => simp [Tag.lastValue?, Tag.last?, holds.named_desc_of_below]

end DocHarvest.Comment
