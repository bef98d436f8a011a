import DocHarvest.Proofs.Text.Cutting
import Mathlib.Data.List.TakeWhile

/-!
# Lines of a text

A text is a line, or a line followed by a newline and a text. Changes that are made line by line
are followed along this shape.
-/

namespace DocHarvest.Text

variable {change : List Char → List Char} {text line rest : List Char}

theorem lines_ne_nil (text : List Char) : lines text ≠ [] :=
  splitChar_ne_nil '\n' text

theorem lines_of_not_mem (single : '\n' ∉ line) : lines line = [line] :=
  splitChar_of_not_mem single

theorem lines_append_newline (single : '\n' ∉ line) (rest : List Char) :
    lines (line ++ '\n' :: rest) = line :: lines rest :=
  splitChar_append_separator single rest

/-- Induction along the lines of a text. -/
theorem lines_induction {motive : List Char → Prop}
    (last : ∀ line, '\n' ∉ line → motive line)
    (more : ∀ line rest, '\n' ∉ line → motive rest → motive (line ++ '\n' :: rest))
    (text : List Char) : motive text := by
  have each (text : List Char) :
      ∀ line, '\n' ∉ line → motive (line ++ text) := by
    induction text with
    | nil =>
        intro line single
        simpa using last line single
    | cons first text ih =>
        intro line single
        by_cases newline : first = '\n'
        · subst newline
          exact more line text single (by simpa using ih [] (by simp))
        · have := ih (line ++ [first]) (by simp [single, Ne.symm newline])
          simpa using this
  exact each text [] (by simp)

theorem isInfix_of_mem_lines (isLine : line ∈ lines text) : line <:+: text := by
  induction text using lines_induction with
  | last whole single =>
      rw [lines_of_not_mem single, List.mem_singleton] at isLine
      rw [isLine]
  | more first rest single ih =>
      rw [lines_append_newline single, List.mem_cons] at isLine
      rcases isLine with rfl | isLater
      · exact (List.prefix_append line ('\n' :: rest)).isInfix
      · apply (ih isLater).trans
        exact ((List.suffix_cons '\n' rest).trans (List.suffix_append first _)).isInfix

theorem isPrefix_of_lines {first : List Char} {later : List (List Char)}
    (cut : lines text = first :: later) : first <+: text := by
  induction text using lines_induction with
  | last whole single =>
      rw [lines_of_not_mem single] at cut
      rw [(List.cons.inj cut).1]
  | more line rest single ih =>
      rw [lines_append_newline single] at cut
      rw [← (List.cons.inj cut).1]
      exact List.prefix_append line ('\n' :: rest)

theorem mapLines_eq_self (unchanged : ∀ line ∈ lines text, change line = line) :
    mapLines change text = text := by
  rw [mapLines, List.map_congr_left unchanged, List.map_id']
  exact join_splitChar '\n' text

theorem mapLines_of_not_mem (single : '\n' ∉ line) : mapLines change line = change line := by
  simp [mapLines, lines_of_not_mem single, unlines, join]

theorem unlines_cons {piece : List Char} {pieces : List (List Char)} (nonempty : pieces ≠ []) :
    unlines (piece :: pieces) = piece ++ '\n' :: unlines pieces := by
  obtain ⟨next, later, rfl⟩ := List.exists_cons_of_ne_nil nonempty
  simp [unlines, join]

theorem mapLines_line_append (single : '\n' ∉ line) (rest : List Char) :
    mapLines change (line ++ '\n' :: rest) = change line ++ '\n' :: mapLines change rest := by
  have nonempty : (lines rest).map change ≠ [] := by simpa using lines_ne_nil rest
  rw [mapLines, lines_append_newline single, List.map_cons, unlines_cons nonempty]
  rfl

theorem mapLines_mapLines {next : List Char → List Char}
    (single : ∀ line, '\n' ∉ line → '\n' ∉ change line) (text : List Char) :
    mapLines next (mapLines change text) = mapLines (fun line => next (change line)) text := by
  induction text using lines_induction with
  | last line isLine =>
      rw [mapLines_of_not_mem isLine, mapLines_of_not_mem (single line isLine),
        mapLines_of_not_mem isLine]
  | more line rest isLine ih =>
      rw [mapLines_line_append isLine, mapLines_line_append (single line isLine),
        mapLines_line_append isLine, ih]

/-- A change line by line is made to both sides of a newline. -/
theorem mapLines_append_newline (text rest : List Char) :
    mapLines change (text ++ '\n' :: rest) =
      mapLines change text ++ '\n' :: mapLines change rest := by
  induction text using lines_induction with
  | last line single => rw [mapLines_line_append single, mapLines_of_not_mem single]
  | more line text single ih =>
      rw [List.append_assoc, List.cons_append, mapLines_line_append single, ih,
        mapLines_line_append single, List.append_assoc, List.cons_append]

theorem length_dropFirst_le (unwanted : Char) (text : List Char) :
    (dropFirst unwanted text).length ≤ text.length := by
  unfold dropFirst
  split
  · exact le_rfl
  · split <;> simp

theorem length_dropEndWhile_le (unwanted : Char → Bool) (text : List Char) :
    (dropEndWhile unwanted text).length ≤ text.length := by
  have shorter : (text.reverse.dropWhile unwanted).length ≤ text.reverse.length :=
    (List.dropWhile_sublist unwanted).length_le
  simpa [dropEndWhile] using shorter

theorem dropFirst_of_not_mem {unwanted : Char} (absent : unwanted ∉ text) :
    dropFirst unwanted text = text := by
  rcases text with _ | ⟨first, rest⟩
  · rfl
  · have different : first ≠ unwanted := fun same => absent (same ▸ List.mem_cons_self)
    simp [dropFirst, different]

theorem dropEndWhile_of_getLast? {unwanted : Char → Bool}
    (kept : ∀ last ∈ text.getLast?, unwanted last = false) : dropEndWhile unwanted text = text := by
  rcases List.eq_nil_or_concat text with rfl | ⟨before, last, whole⟩
  · rfl
  · rw [List.concat_eq_append] at whole
    subst whole
    simp [dropEndWhile, kept last (by simp)]

theorem dropEndWhile_append_of_getLast? {unwanted : Char → Bool} {before after : List Char}
    {last : Char} (isLast : after.getLast? = some last) (kept : unwanted last = false) :
    dropEndWhile unwanted (before ++ after) = before ++ after := by
  apply dropEndWhile_of_getLast?
  rw [List.getLast?_append, isLast]
  rintro _ ⟨⟩
  exact kept

theorem dropEndWhile_concat {unwanted : Char → Bool} {last : Char} (dropped : unwanted last)
    (text : List Char) : dropEndWhile unwanted (text ++ [last]) = dropEndWhile unwanted text := by
  simp [dropEndWhile, dropped]

theorem dropEndWhile_isPrefix (unwanted : Char → Bool) (text : List Char) :
    dropEndWhile unwanted text <+: text := by
  rw [← List.reverse_suffix, dropEndWhile, List.reverse_reverse]
  exact List.dropWhile_suffix unwanted

/-- What stands up to a character that is kept stays. -/
theorem dropEndWhile_append_cons {unwanted : Char → Bool} {kept : Char}
    (isKept : unwanted kept = false) (before after : List Char) :
    dropEndWhile unwanted (before ++ kept :: after) =
      before ++ kept :: dropEndWhile unwanted after := by
  have stops : (after.reverse ++ kept :: before.reverse).dropWhile unwanted =
      after.reverse.dropWhile unwanted ++ kept :: before.reverse := by
    rw [List.dropWhile_append]
    split
    · next nothing => simp_all
    · rfl
  simp [dropEndWhile, stops]

theorem dropEndWhile_append_of_eq_nil {unwanted : Char → Bool} {after : List Char}
    (dropped : dropEndWhile unwanted after = []) (before : List Char) :
    dropEndWhile unwanted (before ++ after) = dropEndWhile unwanted before := by
  have nothing : after.reverse.dropWhile unwanted = [] := by simpa [dropEndWhile] using dropped
  simp [dropEndWhile, List.dropWhile_append, nothing]

theorem dropEndWhile_append_dropEndWhile (unwanted : Char → Bool) (before after : List Char) :
    dropEndWhile unwanted (before ++ dropEndWhile unwanted after) =
      dropEndWhile unwanted (before ++ after) := by
  have whole : after =
      dropEndWhile unwanted after ++ (after.reverse.takeWhile unwanted).reverse := by
    rw [dropEndWhile, ← List.reverse_append, List.takeWhile_append_dropWhile, List.reverse_reverse]
  have dropped : dropEndWhile unwanted (after.reverse.takeWhile unwanted).reverse = [] := by
    simpa [dropEndWhile, List.dropWhile_eq_nil_iff] using fun _ => List.mem_takeWhile_imp
  conv_rhs => rw [whole, ← List.append_assoc, dropEndWhile_append_of_eq_nil dropped]

theorem dropEndWhile_idem (unwanted : Char → Bool) (text : List Char) :
    dropEndWhile unwanted (dropEndWhile unwanted text) = dropEndWhile unwanted text :=
  dropEndWhile_append_dropEndWhile unwanted [] text

/-- How a text starts does not depend on what is dropped at its end. -/
theorem isPrefix_dropEndWhile {unwanted : Char → Bool} {kept : Char}
    (isKept : unwanted kept = false) :
    [kept] <+: dropEndWhile unwanted text ↔ [kept] <+: text := by
  constructor
  · exact fun starts => starts.trans (dropEndWhile_isPrefix unwanted text)
  · rintro ⟨rest, rfl⟩
    have cut := dropEndWhile_append_cons isKept [] rest
    exact ⟨dropEndWhile unwanted rest, cut.symm⟩

/-- What is left of a text and a newline without the newlines around them. -/
theorem dropEndWhile_dropFirst_newline (starts : ∀ first ∈ text.head?, first ≠ '\n')
    (ends : ∀ last ∈ text.getLast?, last ≠ '\n') :
    dropEndWhile (· == '\n') (dropFirst '\n' (text ++ ['\n'])) = text := by
  rcases text with _ | ⟨first, rest⟩
  · rfl
  · have kept : dropFirst '\n' (first :: rest ++ ['\n']) = first :: rest ++ ['\n'] := by
      simp [dropFirst, starts first (by simp)]
    rw [kept, dropEndWhile_concat (by simp), dropEndWhile_of_getLast?]
    intro last isLast
    simpa using ends last isLast

theorem mapLines_flatMap_newline {Block : Type} (written : Block → List Char)
    (blocks : List Block) :
    mapLines change (blocks.flatMap fun block => written block ++ ['\n']) =
      (blocks.flatMap fun block => mapLines change (written block) ++ ['\n']) ++ change [] := by
  induction blocks with
  | nil => exact mapLines_of_not_mem List.not_mem_nil
  | cons block blocks ih =>
      rw [List.flatMap_cons, List.append_assoc, List.singleton_append, mapLines_append_newline, ih]
      simp

/-- Joined blocks with a newline at the end are blocks that each end with a newline. -/
theorem unlines_append_newline {Block : Type} (written : Block → List Char) {blocks : List Block}
    (nonempty : blocks ≠ []) :
    unlines (blocks.map written) ++ ['\n'] =
      blocks.flatMap fun block => written block ++ ['\n'] := by
  induction blocks with
  | nil => exact absurd rfl nonempty
  | cons block blocks ih =>
      rcases blocks with _ | ⟨next, later⟩
      · simp [unlines, join]
      · rw [List.map_cons, unlines_cons (by simp), List.append_assoc, List.cons_append,
          ih (List.cons_ne_nil next later)]
        simp

/-- A text with a margin put in front of every line but the first. -/
def spread (margin text : List Char) : List Char :=
  text.flatMap fun character => if character = '\n' then '\n' :: margin else [character]

theorem spread_line_append (margin : List Char) (single : '\n' ∉ line) (rest : List Char) :
    spread margin (line ++ rest) = line ++ spread margin rest := by
  induction line with
  | nil => rfl
  | cons first line ih =>
      rw [List.mem_cons, not_or] at single
      simp only [spread] at ih
      simp [spread, Ne.symm single.1, ih single.2]

theorem spread_of_not_mem (margin : List Char) (single : '\n' ∉ line) :
    spread margin line = line := by
  simpa [spread] using spread_line_append margin single []

theorem spread_newline (margin rest : List Char) :
    spread margin ('\n' :: rest) = '\n' :: (margin ++ spread margin rest) := by
  simp [spread]

@[simp] theorem spread_nil (text : List Char) : spread [] text = text := by
  induction text with
  | nil => rfl
  | cons first text ih =>
      simp only [spread] at ih
      by_cases newline : first = '\n' <;> simp [spread, newline, ih]

/--
A change that turns the margin of the later lines into another one and what stands before the first
line into something else does so in the whole text.
-/
theorem mapLines_spread {before after margin margin' first : List Char}
    {later : List (List Char)} (cut : lines text = first :: later)
    (onFirst : change (before ++ first) = after ++ first)
    (onLater : ∀ line ∈ later, change (margin ++ line) = margin' ++ line)
    (single : '\n' ∉ before) (singleMargin : '\n' ∉ margin) :
    mapLines change (before ++ spread margin text) = after ++ spread margin' text := by
  induction text using lines_induction generalizing before after first later with
  | last line singleLine =>
      rw [lines_of_not_mem singleLine] at cut
      cases cut
      rw [spread_of_not_mem margin singleLine, spread_of_not_mem margin' singleLine,
        mapLines_of_not_mem (by simp [single, singleLine]), onFirst]
  | more line rest singleLine ih =>
      rw [lines_append_newline singleLine] at cut
      cases cut
      obtain ⟨next, others, cut_rest⟩ := List.exists_cons_of_ne_nil (lines_ne_nil rest)
      rw [cut_rest] at onLater
      have onRest := ih cut_rest (onLater next List.mem_cons_self)
        (fun other isOther => onLater other (List.mem_cons_of_mem next isOther)) singleMargin
      rw [spread_line_append margin singleLine, spread_newline,
        spread_line_append margin' singleLine, spread_newline, ← List.append_assoc,
        mapLines_line_append (by simp [single, singleLine]), onFirst, onRest]
      simp

/-- A change of the first line alone. -/
theorem mapLines_first {before after first : List Char} {later : List (List Char)}
    (cut : lines text = first :: later) (onFirst : change (before ++ first) = after ++ first)
    (onLater : ∀ line ∈ later, change line = line) (single : '\n' ∉ before) :
    mapLines change (before ++ text) = after ++ text := by
  have whole : mapLines change (before ++ spread [] text) = after ++ spread [] text :=
    mapLines_spread cut onFirst onLater single (by simp)
  simpa using whole

end DocHarvest.Text
