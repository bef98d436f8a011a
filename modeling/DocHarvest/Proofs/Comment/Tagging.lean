import DocHarvest.Proofs.Comment.Margin

/-!
# How a text is cut into tags

Which lines of a text begin a tag, how the marks around the names cut the text, and which tags are
collected from the pieces.
-/

namespace DocHarvest.Comment

variable {name line text rest : List Char}

/-! ## Lines that start with a tag -/

/-- A name of a tag: `@` and a word. -/
def IsTagName (name : List Char) : Prop :=
  name.head? = some '@' ∧ name.tail ≠ [] ∧ ∀ character ∈ name.tail, Text.isWord character

instance : DecidablePred IsTagName := fun name =>
  decidable_of_iff (name.head? = some '@' ∧ name.tail ≠ [] ∧ name.tail.all Text.isWord)
    (by simp [IsTagName])

/-- A line that consists of blanks, a name of a tag, and a blank or the end of the line. -/
def StartsTag (line : List Char) : Prop :=
  ∃ gap name rest, line = gap ++ (name ++ rest) ∧ (∀ blank ∈ gap, Text.isGap blank) ∧
    IsTagName name ∧ ∀ next ∈ rest.head?, Text.isGap next

theorem IsTagName.exists_word (named : IsTagName name) :
    ∃ word, name = '@' :: word ∧ word ≠ [] ∧ ∀ character ∈ word, Text.isWord character := by
  rcases name with _ | ⟨first, word⟩
  · simp [IsTagName] at named
  · rcases named with ⟨isAt, nonempty, isWord⟩
    rw [List.head?_cons, Option.some.injEq] at isAt
    exact ⟨word, by rw [isAt], nonempty, isWord⟩

theorem IsTagName.not_mem (named : IsTagName name) {character : Char} (notAt : character ≠ '@')
    (notWord : Text.isWord character = false) : character ∉ name := by
  rcases named.exists_word with ⟨word, rfl, -, isWord⟩
  intro isIn
  rcases List.mem_cons.1 isIn with same | inWord
  · exact notAt same
  · simp [isWord character inWord] at notWord

theorem IsTagName.isPrefix (named : IsTagName name) : ['@'] <+: name := by
  rcases named.exists_word with ⟨word, rfl, -⟩
  exact ⟨word, rfl⟩

/-- The tag of a line is the name it starts with, up to where the word ends. -/
theorem lineTag?_append (named : IsTagName name)
    (ends : ∀ next ∈ rest.head?, Text.isWord next = false) :
    lineTag? (name ++ rest) = some (name, rest) := by
  rcases named.exists_word with ⟨word, rfl, nonempty, isWord⟩
  have takes : (word ++ rest).takeWhile Text.isWord = word := by
    rw [List.takeWhile_append_of_pos isWord]
    rcases rest with _ | ⟨next, rest⟩
    · simp
    · simp [ends next rfl]
  have drops : (word ++ rest).dropWhile Text.isWord = rest := by
    rw [List.dropWhile_append_of_pos isWord]
    rcases rest with _ | ⟨next, rest⟩
    · simp
    · simp [ends next rfl]
  have outdented : ('@' :: (word ++ rest)).dropWhile Text.isGap = '@' :: (word ++ rest) := rfl
  simp only [lineTag?, List.cons_append, outdented, takes, drops]
  rw [if_neg (by simpa using nonempty)]

theorem exists_of_lineTag? {tag : List Char} (tagged : lineTag? line = some (tag, rest)) :
    ∃ gap, line = gap ++ (tag ++ rest) ∧ (∀ blank ∈ gap, Text.isGap blank) ∧ IsTagName tag := by
  unfold lineTag? at tagged
  split at tagged
  · next rest' outdented =>
    dsimp only at tagged
    split at tagged
    · cases tagged
    · next nonempty =>
      rw [Option.some.injEq, Prod.mk.injEq] at tagged
      rcases tagged with ⟨rfl, rfl⟩
      refine ⟨line.takeWhile Text.isGap, ?_, ?_, ?_⟩
      · rw [List.cons_append, List.takeWhile_append_dropWhile, ← outdented,
          List.takeWhile_append_dropWhile]
      · intro blank isIn
        exact List.all_eq_true.1 List.all_takeWhile _ isIn
      · refine ⟨rfl, by simpa using nonempty, ?_⟩
        intro character isIn
        exact List.all_eq_true.1 List.all_takeWhile _ isIn
  · cases tagged

theorem startsTag_of_lineTag? {tag : List Char} (tagged : lineTag? line = some (tag, rest))
    (ends : ∀ next ∈ rest.head?, Text.isGap next) : StartsTag line := by
  rcases exists_of_lineTag? tagged with ⟨gap, whole, blanks, named⟩
  exact ⟨gap, tag, rest, whole, blanks, named, ends⟩

theorem markBare_of_not_startsTag (untagged : ¬ StartsTag line) : markBare line = line := by
  unfold markBare
  split
  · next tag tagged => exact absurd (startsTag_of_lineTag? tagged (by simp)) untagged
  · rfl

theorem markCut_of_not_startsTag (untagged : ¬ StartsTag line) : markCut line = line := by
  unfold markCut
  split
  · next tag next rest tagged =>
    split
    · next isGap =>
      exact absurd (startsTag_of_lineTag? tagged (by simpa using isGap)) untagged
    · rfl
  · rfl

theorem not_startsTag_of_not_mem (noAt : '@' ∉ line) : ¬ StartsTag line := by
  rintro ⟨gap, name, rest, rfl, -, named, -⟩
  rcases named.exists_word with ⟨word, rfl, -⟩
  simp at noAt

theorem markBare_name (named : IsTagName name) : markBare name = name ++ ' ' :: emptyMark := by
  have tagged : lineTag? (name ++ []) = _ := lineTag?_append named (by simp)
  rw [List.append_nil] at tagged
  simp [markBare, tagged]

theorem lineTag?_name_append (named : IsTagName name) (value : List Char) :
    lineTag? (name ++ ' ' :: value) = some (name, ' ' :: value) := by
  apply lineTag?_append named
  rintro next ⟨⟩
  decide

theorem markBare_name_append (named : IsTagName name) (value : List Char) :
    markBare (name ++ ' ' :: value) = name ++ ' ' :: value := by
  simp [markBare, lineTag?_name_append named]

theorem markCut_name_append (named : IsTagName name) (value : List Char) :
    markCut (name ++ ' ' :: value) = cutMark ++ name ++ cutMark ++ value := by
  have isGap : Text.isGap ' ' = true := rfl
  simp [markCut, lineTag?_name_append named, isGap]

/-- A line that starts with a tag, by the tag that is read from it. -/
theorem startsTag_iff :
    StartsTag line ↔ (lineTag? line).any fun tag => tag.2.head?.all Text.isGap := by
  constructor
  · rintro ⟨gap, name, rest, rfl, blanks, named, ends⟩
    have read : lineTag? (gap ++ (name ++ rest)) = lineTag? (name ++ rest) := by
      unfold lineTag?
      rw [List.dropWhile_append_of_pos blanks]
    have tagged : lineTag? (name ++ rest) = some (name, rest) := by
      apply lineTag?_append named
      intro next isNext
      have isGap := ends next isNext
      simp only [Text.isGap, Bool.or_eq_true, beq_iff_eq] at isGap
      rcases isGap with rfl | rfl <;> decide
    rw [read, tagged]
    simpa [Option.all_eq_true] using ends
  · intro reads
    rcases tagged : lineTag? line with _ | ⟨tag, rest⟩
    · simp [tagged] at reads
    · apply startsTag_of_lineTag? tagged
      simpa [tagged, Option.all_eq_true] using reads

instance : DecidablePred StartsTag :=
  fun _ => decidable_of_iff _ startsTag_iff.symm

/-! ## Cutting at the names -/

theorem cutMark_ne_nil : cutMark ≠ [] :=
  List.cons_ne_nil _ _

/-- The pieces of a text that starts with a tag and has no blank at its end. -/
theorem pieces_of_isPrefix (isTagged : ['@'] <+: text)
    (solid : ∀ last ∈ text.getLast?, Text.isGap last = false) :
    pieces text =
      Text.split cutMark (Text.mapLines markCut (Text.mapLines markBare (shieldFences text))) := by
  have tagged : withTag text = text := if_pos (List.isPrefixOf_iff_prefix.2 isTagged)
  simp only [pieces, tagged, Text.dropEndWhile_of_getLast? solid]

theorem shieldFences_of_absent (unfenced : ¬ fenceMark <:+: text) : shieldFences text = text := by
  simp [shieldFences, Text.split_of_absent unfenced, shieldFenced, Text.join]

/-- A name between cut marks is a piece of its own. -/
theorem split_marked (named : IsTagName name) (rest : List Char) :
    Text.split cutMark (cutMark ++ name ++ cutMark ++ rest) =
      [] :: name :: Text.split cutMark rest := by
  have absent : '\\' ∉ name := named.not_mem (by decide) (by decide)
  rw [List.append_assoc, List.append_assoc, Text.split_mark_append cutMark_ne_nil,
    ← List.append_assoc,
    Text.split_append_mark cutMark_ne_nil (Text.Clear.of_head? rfl absent)]

/-! ## Collecting the tags -/

theorem collect_cons_of_nameless {piece : List Char} (nameless : ¬ ['@'] <+: piece)
    (pieces : List (List Char)) : collect (piece :: pieces) = collect pieces := by
  have isNameless : ¬ ['@'].isPrefixOf piece := by rwa [List.isPrefixOf_iff_prefix]
  rcases pieces with _ | ⟨next, later⟩
  · simp [collect, isNameless]
  · rw [collect, if_neg isNameless]

theorem collect_name_value {value : List Char} (named : ['@'] <+: name)
    (isValue : ¬ ['@'] <+: value) (pieces : List (List Char)) :
    collect (name :: value :: pieces) = tagOf name value :: collect pieces := by
  rw [collect, if_pos (List.isPrefixOf_iff_prefix.2 named),
    if_neg (by rwa [List.isPrefixOf_iff_prefix])]

theorem collect_name_name {name' : List Char} (named : ['@'] <+: name) (named' : ['@'] <+: name')
    (pieces : List (List Char)) :
    collect (name :: name' :: pieces) = tagOf name [] :: collect (name' :: pieces) := by
  rw [collect, if_pos (List.isPrefixOf_iff_prefix.2 named),
    if_pos (List.isPrefixOf_iff_prefix.2 named')]

theorem collect_eq_nil {pieces : List (List Char)}
    (nameless : ∀ piece ∈ pieces, ¬ ['@'] <+: piece) : collect pieces = [] := by
  induction pieces with
  | nil => rfl
  | cons piece pieces ih =>
      rw [collect_cons_of_nameless (nameless piece List.mem_cons_self)]
      exact ih fun other isOther => nameless other (List.mem_cons_of_mem piece isOther)

/-! ## The text of a tag -/

theorem cleanValue_of_absent (notEmpty : ¬ emptyMark <:+: text)
    (unshielded : ¬ shieldMark <:+: text) :
    cleanValue text = Text.dropEndWhile (· == '\n') (Text.dropFirst '\n' text) := by
  rw [cleanValue, Text.replaceFirst_of_absent notEmpty, Text.replaceAll_of_absent unshielded]

theorem length_cleanValue_le_unmarked (text : List Char) : (cleanValue text).length ≤
    (Text.replaceAll shieldMark ['@'] (Text.replaceFirst emptyMark [] text)).length :=
  (Text.length_dropEndWhile_le _ _).trans (Text.length_dropFirst_le _ _)

/-- A mark within a text is missing from what is kept of it. -/
theorem length_cleanValue_lt (occurs : emptyMark <:+: text ∨ shieldMark <:+: text) :
    (cleanValue text).length < text.length := by
  apply (length_cleanValue_le_unmarked text).trans_lt
  by_cases notEmpty : emptyMark <:+: text
  · have shorter : (Text.replaceFirst emptyMark [] text).length < text.length :=
      Text.length_replaceFirst_lt (by decide) notEmpty
    exact (Text.length_replaceAll_le (by decide) (by decide) _).trans_lt shorter
  · rw [Text.replaceFirst_of_absent notEmpty]
    exact Text.length_replaceAll_lt (by decide) (occurs.resolve_left notEmpty)

theorem length_cleanValue_le (text : List Char) : (cleanValue text).length ≤ text.length := by
  by_cases occurs : emptyMark <:+: text ∨ shieldMark <:+: text
  · exact (length_cleanValue_lt occurs).le
  · rw [not_or] at occurs
    rw [cleanValue_of_absent occurs.1 occurs.2]
    exact (Text.length_dropEndWhile_le _ _).trans (Text.length_dropFirst_le _ _)

end DocHarvest.Comment
