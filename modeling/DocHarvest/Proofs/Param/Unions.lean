import DocHarvest.Param.Parse
import DocHarvest.Proofs.Text.Brackets
import DocHarvest.Proofs.Text.Lines

/-!
# Unions of types

The alternatives of a type text are told by how the text starts and by marks in it, not by its
brackets. They are the pieces between its outer bars just if this is enough to tell the outer bars
from the others, which is what `Readable` says. Parentheses around the whole text are left out, and
the dots of a repeated union go to its first alternative.
-/

namespace DocHarvest.Param

variable {type union rest : List Char}

/-- The brackets of a type text. -/
def typeBrackets : Text.Brackets := [('(', ')'), ('<', '>'), ('\x7b', '\x7d'), ('[', ']')]

/-- The depths at which the bars of a type text stand. -/
def barDepths (type : List Char) : List Int :=
  typeBrackets.depths '|' type

/-- The pieces of a type text between its outer bars. -/
def unionPieces (type : List Char) : List (List Char) :=
  typeBrackets.pieces '|' type

/-- What stands between parentheses around a whole type text. -/
def group? : List Char → Option (List Char)
  | '(' :: rest =>
      if rest.getLast? = some ')' ∧ typeBrackets.Nested rest.dropLast then some rest.dropLast
      else none
  | _ => none

/-- Some line of a type text holds `<`, later a bar and later `>`. -/
def HasAngledBar (type : List Char) : Prop :=
  ∃ line ∈ Text.lines type, ['<', '|', '>'].Sublist line

instance : DecidablePred HasAngledBar := fun type =>
  inferInstanceAs (Decidable (∃ line ∈ Text.lines type, ['<', '|', '>'].Sublist line))

/-- A type text starts with `...(`, and a parenthesis closes on the same line. -/
def OpensRepeated (type : List Char) : Prop :=
  ∃ rest, type = spreadUnionMark ++ rest ∧ ')' ∈ rest.takeWhile (· != '\n')

/-! ## Marks in a type text -/

/-- Marks follow each other in a text if the later ones stand behind the first occurrence. -/
theorem cons_sublist_iff_dropWhile {mark : Char} {marks text : List Char} (nonempty : marks ≠ []) :
    (mark :: marks).Sublist text ↔ marks.Sublist ((text.dropWhile (· != mark)).drop 1) := by
  induction text with
  | nil => simp [nonempty]
  | cons first text ih =>
      by_cases same : first = mark
      · subst same
        simp
      · rw [List.dropWhile_cons_of_pos (by simpa using same), ← ih]
        constructor
        · intro isPart
          cases isPart with
          | cons _ isLater => exact isLater
          | cons_cons _ _ => exact absurd rfl same
        · exact List.Sublist.cons first

theorem hasBarInAngles_iff : hasBarInAngles type ↔ HasAngledBar type := by
  have scanned (line : List Char) : ['<', '|', '>'].Sublist line ↔
      '>' ∈ (((line.dropWhile (· != '<')).drop 1).dropWhile (· != '|')).drop 1 := by
    rw [cons_sublist_iff_dropWhile (by simp), cons_sublist_iff_dropWhile (by simp),
      List.singleton_sublist]
  simp only [hasBarInAngles, HasAngledBar, scanned, List.any_eq_true, List.contains_iff_mem]

theorem mem_bar_of_hasAngledBar (angled : HasAngledBar type) : '|' ∈ type := by
  obtain ⟨line, isLine, isPart⟩ := angled
  have inLine : '|' ∈ line := isPart.subset (by simp)
  exact (Text.isInfix_of_mem_lines isLine).subset inLine

theorem spreadUnion?_eq_some_iff :
    spreadUnion? type = some rest ↔
      type = spreadUnionMark ++ rest ∧ ')' ∈ rest.takeWhile (· != '\n') := by
  have opens (found : List Char) :
      spreadUnionMark.isPrefixOf? type = some found ↔ type = spreadUnionMark ++ found := by
    rw [List.isPrefixOf?_eq_some_iff_append_eq, eq_comm]
  unfold spreadUnion?
  split
  · next found isFound =>
    rw [opens] at isFound
    rw [isFound, Option.ite_none_right_eq_some, List.contains_iff_mem, Option.some.injEq,
      List.append_cancel_left_eq]
    constructor
    · rintro ⟨closes, rfl⟩
      exact ⟨rfl, closes⟩
    · rintro ⟨rfl, closes⟩
      exact ⟨closes, rfl⟩
  · next none =>
    constructor
    · intro isRest
      cases isRest
    · rintro ⟨whole, -⟩
      rw [(opens rest).2 whole] at none
      cases none

theorem opensRepeated_iff : OpensRepeated type ↔ (spreadUnion? type).isSome := by
  rw [Option.isSome_iff_exists]
  exact exists_congr fun rest => spreadUnion?_eq_some_iff.symm

instance : DecidablePred OpensRepeated := fun _ => decidable_of_iff _ opensRepeated_iff.symm

/-! ## Forms of a type text -/

/-- What stands between the parentheses of a repeated union, such as `...(a|b)`. -/
def repeated? (type : List Char) : Option (List Char) :=
  if OpensRepeated type ∧ ¬ HasAngledBar type then
    (group? (type.drop 3)).filter fun union => 0 ∈ barDepths union
  else none

/-- The pieces that make up the union of a type text. The dots of a repeated one go to the first. -/
def unionOf (type : List Char) : List (List Char) :=
  match repeated? type with
  | some union => "...".toList.foldr Text.extendFirst (unionPieces union)
  | none => unionPieces ((group? type).getD type)

/-- Type texts whose outer bars are told from the others by how the text starts and by its marks. -/
inductive Readable (type : List Char) : Prop
  | group {union : List Char} (grouped : group? type = some union)
      (outer : ∀ depth ∈ barDepths union, depth = 0)
  | repeated {union : List Char} (repeats : repeated? type = some union)
      (outer : ∀ depth ∈ barDepths union, depth = 0)
  | whole (ungrouped : type.head? ≠ some '(')
      (kept : type.head? = some '\x7b' ∨ HasAngledBar type) (inner : 0 ∉ barDepths type)
  | union (ungrouped : type.head? ≠ some '(') (noRecord : type.head? ≠ some '\x7b')
      (unangled : ¬ HasAngledBar type) (unrepeated : '|' ∈ type → ¬ OpensRepeated type)
      (outer : ∀ depth ∈ barDepths type, depth = 0)

theorem barDepths_of_not_mem (absent : '|' ∉ type) : barDepths type = [] :=
  Text.Brackets.depthsFrom_eq_nil_iff.2 absent

theorem group?_eq_some (grouped : group? type = some union) :
    type = '(' :: (union ++ [')']) ∧ typeBrackets.Nested union := by
  unfold group? at grouped
  split at grouped
  · next rest =>
    rw [Option.ite_none_right_eq_some, Option.some.injEq] at grouped
    obtain ⟨⟨closes, nested⟩, rfl⟩ := grouped
    have whole := List.dropLast_append_getLast? ')' closes
    exact ⟨congrArg _ whole.symm, nested⟩
  · cases grouped

theorem group?_eq_none_of_head? (ungrouped : type.head? ≠ some '(') : group? type = none := by
  unfold group?
  split
  · exact absurd rfl ungrouped
  · rfl

theorem repeated?_eq_some (repeats : repeated? type = some union) :
    OpensRepeated type ∧ ¬ HasAngledBar type ∧ type = spreadUnionMark ++ (union ++ [')']) ∧
      typeBrackets.Nested union ∧ 0 ∈ barDepths union := by
  unfold repeated? at repeats
  rw [Option.ite_none_right_eq_some, Option.filter_eq_some_iff] at repeats
  obtain ⟨⟨opens, unangled⟩, grouped, isUnion⟩ := repeats
  obtain ⟨whole, nested⟩ := group?_eq_some grouped
  refine ⟨opens, unangled, ?_, nested, by simpa using isUnion⟩
  obtain ⟨rest, rfl, -⟩ := opens
  simpa [spreadUnionMark] using whole

theorem head?_of_opensRepeated (opens : OpensRepeated type) : type.head? = some '.' := by
  obtain ⟨rest, rfl, -⟩ := opens
  rfl

theorem repeated?_eq_none_of_head? (other : type.head? ≠ some '.') : repeated? type = none := by
  cases repeats : repeated? type with
  | none => rfl
  | some union => exact absurd (head?_of_opensRepeated (repeated?_eq_some repeats).1) other

theorem repeated?_eq_none_of_not_mem (absent : '|' ∉ type) : repeated? type = none := by
  cases repeats : repeated? type with
  | none => rfl
  | some union =>
      obtain ⟨-, -, whole, -, isUnion⟩ := repeated?_eq_some repeats
      have noBar : '|' ∉ union := fun isIn => absent (by simp [whole, isIn])
      rw [barDepths_of_not_mem noBar] at isUnion
      cases isUnion

/-! ## What is read -/

theorem alternatives_of_head? (ungrouped : type.head? ≠ some '(')
    (noRecord : type.head? ≠ some '\x7b') :
    alternatives type =
      if '|' ∉ type ∨ HasAngledBar type then [type]
      else
        match spreadUnion? type with
        | some rest => Text.splitChar '|' (dropClosing ("...".toList ++ rest))
        | none => Text.splitChar '|' type := by
  unfold alternatives
  split
  · exact absurd rfl noRecord
  · exact absurd rfl ungrouped
  · apply if_congr _ rfl rfl
    simp [hasBarInAngles_iff]

theorem dropClosing_concat (text : List Char) : dropClosing (text ++ [')']) = text := by
  simp [dropClosing]

theorem length_dropClosing_le (text : List Char) : (dropClosing text).length ≤ text.length := by
  have same : text.reverse.length = text.length := List.length_reverse
  rw [← same]
  unfold dropClosing
  split
  · next before whole => simp [whole]
  · next before whole => simp [whole]
  · simp

theorem length_dropLast_le (unwanted : Char) (text : List Char) :
    (Text.dropLast unwanted text).length ≤ text.length := by
  have shorter := Text.length_dropFirst_le unwanted text.reverse
  simpa [Text.dropLast] using shorter

/-- Pieces that are joined to a shorter text are other pieces. -/
theorem ne_of_length_lt {text : List Char} (shorter : text.length < type.length) :
    Text.splitChar '|' text ≠ unionPieces type := by
  intro same
  have joined := Text.join_splitChar '|' text
  have whole : Text.join ['|'] (unionPieces type) = type := Text.Brackets.join_pieces
  rw [same, whole] at joined
  rw [joined] at shorter
  exact lt_irrefl _ shorter

theorem pieces_eq_iff :
    Text.splitChar '|' type = unionPieces type ↔ ∀ depth ∈ barDepths type, depth = 0 := by
  rw [eq_comm]
  exact Text.Brackets.pieces_eq_splitChar_iff

theorem singleton_eq_pieces_iff : [type] = unionPieces type ↔ 0 ∉ barDepths type := by
  rw [eq_comm]
  exact Text.Brackets.pieces_eq_singleton_iff

theorem unionOf_of_head? (ungrouped : type.head? ≠ some '(') (single : repeated? type = none) :
    unionOf type = unionPieces type := by
  simp [unionOf, single, group?_eq_none_of_head? ungrouped]

/-- Without parentheses around a text or behind its dots, its bars are either all kept or all cut. -/
theorem readable_iff (ungrouped : type.head? ≠ some '(') (single : repeated? type = none) :
    Readable type ↔
      ((type.head? = some '\x7b' ∨ HasAngledBar type) ∧ 0 ∉ barDepths type) ∨
      (type.head? ≠ some '\x7b' ∧ ¬ HasAngledBar type ∧ ('|' ∈ type → ¬ OpensRepeated type) ∧
        ∀ depth ∈ barDepths type, depth = 0) := by
  constructor
  · intro readable
    cases readable with
    | group grouped _ => simp [group?_eq_none_of_head? ungrouped] at grouped
    | repeated repeats _ => simp [single] at repeats
    | whole _ kept inner => exact .inl ⟨kept, inner⟩
    | union _ noRecord unangled unrepeated outer =>
        exact .inr ⟨noRecord, unangled, unrepeated, outer⟩
  · rintro (⟨kept, inner⟩ | ⟨noRecord, unangled, unrepeated, outer⟩)
    · exact .whole ungrouped kept inner
    · exact .union ungrouped noRecord unangled unrepeated outer

theorem readable_iff_of_opens (opens : type.head? = some '(') :
    Readable type ↔ ∃ union, group? type = some union ∧ ∀ depth ∈ barDepths union, depth = 0 := by
  constructor
  · intro readable
    cases readable with
    | group grouped outer => exact ⟨_, grouped, outer⟩
    | repeated repeats _ => simp [repeated?_eq_none_of_head?, opens] at repeats
    | whole ungrouped _ _ => exact absurd opens ungrouped
    | union ungrouped _ _ _ _ => exact absurd opens ungrouped
  · rintro ⟨union, grouped, outer⟩
    exact .group grouped outer

/-- A text that starts like a record type is left whole. -/
theorem reads_record (record : type.head? = some '\x7b') :
    alternatives type = unionOf type ↔ Readable type := by
  have ungrouped : type.head? ≠ some '(' := by simp [record]
  have single : repeated? type = none := repeated?_eq_none_of_head? (by simp [record])
  have kept : alternatives type = [type] := by
    obtain ⟨rest, rfl⟩ := List.head?_eq_some_iff.1 record
    rfl
  rw [kept, unionOf_of_head? ungrouped single, singleton_eq_pieces_iff,
    readable_iff ungrouped single]
  simp [record]

/-- A text in parentheses is cut at all of its bars. -/
theorem reads_group (grouped : group? type = some union) :
    alternatives type = unionOf type ↔ Readable type := by
  obtain ⟨whole, -⟩ := group?_eq_some grouped
  have opens : type.head? = some '(' := by simp [whole]
  have single : repeated? type = none := repeated?_eq_none_of_head? (by simp [opens])
  have cut : alternatives type = Text.splitChar '|' union := by
    simp [whole, alternatives, Text.dropLast, Text.dropFirst]
  have stated : unionOf type = unionPieces union := by simp [unionOf, single, grouped]
  rw [cut, stated, pieces_eq_iff, readable_iff_of_opens opens]
  simp [grouped]

/-- A parenthesis that opens a text is dropped, also where it does not enclose the text. -/
theorem reads_open (opens : type.head? = some '(') (ungrouped : group? type = none) :
    alternatives type = unionOf type ↔ Readable type := by
  have single : repeated? type = none := repeated?_eq_none_of_head? (by simp [opens])
  have stated : unionOf type = unionPieces type := by simp [unionOf, single, ungrouped]
  rw [stated, readable_iff_of_opens opens]
  apply iff_of_false
  · obtain ⟨rest, rfl⟩ := List.head?_eq_some_iff.1 opens
    have shorter := length_dropLast_le ')' rest
    apply ne_of_length_lt
    rw [List.length_cons]
    omega
  · simp [ungrouped]

/-- A text without bars has one alternative. -/
theorem reads_single (ungrouped : type.head? ≠ some '(') (noRecord : type.head? ≠ some '\x7b')
    (absent : '|' ∉ type) : alternatives type = unionOf type ↔ Readable type := by
  have noDepths := barDepths_of_not_mem absent
  have single := repeated?_eq_none_of_not_mem absent
  have unangled : ¬ HasAngledBar type := fun angled => absent (mem_bar_of_hasAngledBar angled)
  rw [alternatives_of_head? ungrouped noRecord, if_pos (.inl absent),
    unionOf_of_head? ungrouped single, singleton_eq_pieces_iff, readable_iff ungrouped single]
  simp [noDepths, noRecord, unangled, absent]

/-- A text with a bar between angle brackets is left whole. -/
theorem reads_angled (ungrouped : type.head? ≠ some '(') (noRecord : type.head? ≠ some '\x7b')
    (angled : HasAngledBar type) : alternatives type = unionOf type ↔ Readable type := by
  have single : repeated? type = none := by simp [repeated?, angled]
  rw [alternatives_of_head? ungrouped noRecord, if_pos (.inr angled),
    unionOf_of_head? ungrouped single, singleton_eq_pieces_iff, readable_iff ungrouped single]
  simp [angled]

/-- Any other text with bars is cut at all of them. -/
theorem reads_union (ungrouped : type.head? ≠ some '(') (noRecord : type.head? ≠ some '\x7b')
    (isIn : '|' ∈ type) (unangled : ¬ HasAngledBar type) (unrepeated : ¬ OpensRepeated type) :
    alternatives type = unionOf type ↔ Readable type := by
  have single : repeated? type = none := by simp [repeated?, unrepeated]
  have noSpread : spreadUnion? type = none := by
    rwa [opensRepeated_iff, Option.not_isSome_iff_eq_none] at unrepeated
  rw [alternatives_of_head? ungrouped noRecord, if_neg (by simp [isIn, unangled]), noSpread,
    unionOf_of_head? ungrouped single, pieces_eq_iff, readable_iff ungrouped single]
  simp [noRecord, unangled, unrepeated]

theorem unionPieces_ne_nil (type : List Char) : unionPieces type ≠ [] :=
  Text.Brackets.piecesFrom_ne_nil

/-- The dots of a repeated union go to its first alternative. -/
theorem reads_repeated (repeats : repeated? type = some union) :
    alternatives type = unionOf type ↔ Readable type := by
  obtain ⟨opens, unangled, whole, -, isUnion⟩ := repeated?_eq_some repeats
  have starts := head?_of_opensRepeated opens
  have ungrouped : type.head? ≠ some '(' := by simp [starts]
  have noRecord : type.head? ≠ some '\x7b' := by simp [starts]
  have isIn : '|' ∈ type := by
    by_contra absent
    rw [repeated?_eq_none_of_not_mem absent] at repeats
    cases repeats
  have spread : spreadUnion? type = some (union ++ [')']) := by
    obtain ⟨rest, same, closes⟩ := opens
    obtain rfl : union ++ [')'] = rest := List.append_cancel_left (whole.symm.trans same)
    exact spreadUnion?_eq_some_iff.2 ⟨same, closes⟩
  have noBar : '|' ∉ "...".toList := by decide
  have cut : alternatives type = "...".toList.foldr Text.extendFirst (Text.splitChar '|' union) := by
    rw [alternatives_of_head? ungrouped noRecord, if_neg (by simp [isIn, unangled]), spread]
    simp only [← List.append_assoc, dropClosing_concat]
    rw [Text.splitChar_append noBar]
  have stated : unionOf type = "...".toList.foldr Text.extendFirst (unionPieces union) := by
    simp only [unionOf, repeats]
  rw [cut, stated, Text.foldr_extendFirst_inj (Text.splitChar_ne_nil '|' union)
    (unionPieces_ne_nil union), pieces_eq_iff]
  constructor
  · intro outer
    exact .repeated repeats outer
  · intro readable
    cases readable with
    | group grouped _ => simp [group?_eq_none_of_head? ungrouped] at grouped
    | repeated repeatsToo outer =>
        rw [Option.some.inj (repeats.symm.trans repeatsToo)]
        exact outer
    | whole _ kept _ => exact absurd kept (by simp [noRecord, unangled])
    | union _ _ _ unrepeated _ => exact absurd opens (unrepeated isIn)

/-- The parenthesis behind the dots is dropped, also where it does not enclose the rest. -/
theorem reads_spread (opens : OpensRepeated type) (isIn : '|' ∈ type)
    (unangled : ¬ HasAngledBar type) (single : repeated? type = none) :
    alternatives type = unionOf type ↔ Readable type := by
  have starts := head?_of_opensRepeated opens
  obtain ⟨rest, whole, closes⟩ := opens
  have ungrouped : type.head? ≠ some '(' := by simp [starts]
  have noRecord : type.head? ≠ some '\x7b' := by simp [starts]
  have spread := spreadUnion?_eq_some_iff.2 ⟨whole, closes⟩
  rw [alternatives_of_head? ungrouped noRecord, if_neg (by simp [isIn, unangled]), spread,
    unionOf_of_head? ungrouped single, readable_iff ungrouped single]
  apply iff_of_false
  · apply ne_of_length_lt
    have shorter := length_dropClosing_le ("...".toList ++ rest)
    have dots : "...".toList.length = 3 := by decide
    have mark : spreadUnionMark.length = 4 := by decide
    rw [List.length_append, dots] at shorter
    rw [whole, List.length_append, mark]
    omega
  · have spreads : OpensRepeated type := ⟨rest, whole, closes⟩
    simp [noRecord, unangled, isIn, spreads]

/-- The alternatives of a type text are the pieces of its union just if the text is readable. -/
theorem alternatives_eq_iff (type : List Char) :
    alternatives type = unionOf type ↔ Readable type := by
  by_cases record : type.head? = some '\x7b'
  · exact reads_record record
  by_cases opens : type.head? = some '('
  · cases grouped : group? type with
    | some union => exact reads_group grouped
    | none => exact reads_open opens grouped
  by_cases absent : '|' ∉ type
  · exact reads_single opens record absent
  rw [not_not] at absent
  by_cases angled : HasAngledBar type
  · exact reads_angled opens record angled
  by_cases spreads : OpensRepeated type
  · cases repeats : repeated? type with
    | some union => exact reads_repeated repeats
    | none => exact reads_spread spreads absent angled repeats
  · exact reads_union opens record absent angled spreads

/--
The bars of other texts are misjudged: those behind parentheses that do not enclose the whole text, those
between two pairs of angles or behind a record, and those in parentheses that are not the outer ones.
-/
theorem bars_misjudged :
    ∀ (text : String) (given outer : List String), (text, given, outer) ∈ [
        ("(a)|b", ["a)", "b"], ["(a)", "b"]),
        ("Array<a>|Map<b>", ["Array<a>|Map<b>"], ["Array<a>", "Map<b>"]),
        ("\x7ba: b\x7d|c", ["\x7ba: b\x7d|c"], ["\x7ba: b\x7d", "c"]),
        ("function(a|b)", ["function(a", "b)"], ["function(a|b)"]),
        ("((a|b))", ["(a", "b)"], ["(a|b)"])] →
      typeBrackets.Nested text.toList ∧ (alternatives text.toList).map String.ofList = given ∧
        (unionOf text.toList).map String.ofList = outer ∧ ¬ Readable text.toList := by
  have judged (text : String) (given outer : List String)
      (isGiven : (alternatives text.toList).map String.ofList = given)
      (isOuter : (unionOf text.toList).map String.ofList = outer) (different : given ≠ outer) :
      ¬ Readable text.toList := by
    intro readable
    rw [(alternatives_eq_iff _).2 readable] at isGiven
    exact different (isGiven.symm.trans isOuter)
  intro text given outer isCase
  have computed : typeBrackets.Nested text.toList ∧
      (alternatives text.toList).map String.ofList = given ∧
      (unionOf text.toList).map String.ofList = outer ∧ given ≠ outer := by
    simp only [List.mem_cons, List.not_mem_nil, or_false, Prod.mk.injEq] at isCase
    rcases isCase with ⟨rfl, rfl, rfl⟩ | ⟨rfl, rfl, rfl⟩ | ⟨rfl, rfl, rfl⟩ | ⟨rfl, rfl, rfl⟩ |
      ⟨rfl, rfl, rfl⟩
    all_goals decide +kernel
  rcases computed with ⟨nested, isGiven, isOuter, different⟩
  exact ⟨nested, isGiven, isOuter, judged text given outer isGiven isOuter different⟩

/-! ## Types of a parameter -/

theorem alternatives_ne_nil (type : List Char) : alternatives type ≠ [] := by
  unfold alternatives
  split
  · simp
  · exact Text.splitChar_ne_nil _ _
  · split
    · simp
    · split
      · exact Text.splitChar_ne_nil _ _
      · exact Text.splitChar_ne_nil _ _

theorem types_withType_ne_nil (type : Option String) (param : Param) :
    (withType type param).types ≠ [] := by
  unfold withType
  split
  · simp
  · split
    · simp
    · simpa using alternatives_ne_nil _

@[simp]
theorem types_withName (name : Option String) (param : Param) :
    (withName name param).types = param.types := by
  unfold withName
  split
  · rfl
  · split
    · rfl
    · dsimp only
      split <;> rfl

/-- If no type is empty, the parts of a tag make a parameter of these types. -/
theorem exists_ofParts {type : Option String} (nonempty : "" ∉ (withType type {}).types)
    (name description : Option String) :
    ∃ param, ofParts type name description = .ok param ∧
      param.types = (withType type {}).types := by
  have noneEmpty : (withType type {}).types.any String.isEmpty = false := by
    rw [Bool.eq_false_iff]
    intro someEmpty
    obtain ⟨empty, isType, isEmpty⟩ := List.any_eq_true.1 someEmpty
    rw [String.isEmpty_iff.1 isEmpty] at isType
    exact nonempty isType
  refine ⟨{ withName name (withType type {}) with description }, ?_, by simp⟩
  simp only [ofParts, noneEmpty, Bool.false_eq_true, if_false]

theorem types_withType {type : String} (nonempty : type ≠ "") (param : Param) :
    (withType (some type) param).types =
      (alternatives (dropNullability type.toList)).map String.ofList := by
  have notEmpty : type.isEmpty = false := by simpa [Bool.eq_false_iff] using nonempty
  simp [withType, notEmpty]

/-- A leading mark is no bracket. -/
theorem nested_dropNullability (nested : typeBrackets.Nested type) :
    typeBrackets.Nested (dropNullability type) := by
  unfold dropNullability
  split
  · next marked =>
    unfold nullability at marked
    split at marked
    · exact (Text.Brackets.closes_cons_of_plain (by decide) (by decide)).1 nested
    · exact (Text.Brackets.closes_cons_of_plain (by decide) (by decide)).1 nested
    · cases marked
  · exact nested

theorem nested_unionPieces (nested : typeBrackets.Nested type) :
    ∀ piece ∈ unionPieces type, typeBrackets.Nested piece :=
  nested.of_mem_pieces (by decide) (by decide)

/-- The pieces of a nested type text are nested. -/
theorem nested_unionOf (nested : typeBrackets.Nested type) :
    ∀ piece ∈ unionOf type, typeBrackets.Nested piece := by
  unfold unionOf
  split
  · next union repeats =>
    have nestedUnion := (repeated?_eq_some repeats).2.2.2.1
    obtain ⟨first, later, cut⟩ := List.exists_cons_of_ne_nil (unionPieces_ne_nil union)
    have nestedPieces := nested_unionPieces nestedUnion
    rw [cut, List.forall_mem_cons] at nestedPieces
    rw [cut, Text.foldr_extendFirst, List.forall_mem_cons]
    refine ⟨?_, nestedPieces.2⟩
    have dots : ∀ character ∈ "...".toList,
        typeBrackets.closing? character = none ∧ typeBrackets.isClosing character = false := by
      intro character isDot
      obtain rfl : character = '.' := by simpa using isDot
      decide
    exact (Text.Brackets.closes_append_of_plain _ dots).2 nestedPieces.1
  · cases grouped : group? type with
    | none => exact nested_unionPieces nested
    | some union => exact nested_unionPieces (group?_eq_some grouped).2

/--
The types of a parameter are the pieces of its type text between the bars outside of all brackets, if
the text is readable: parentheses around the whole of it are left out, and the dots of a repeated
union go to its first alternative. The types are nested again.
-/
theorem unions_split_at_outer_bars {type : String} (nested : typeBrackets.Nested type.toList)
    (readable : Readable (dropNullability type.toList))
    (nonempty : ∀ piece ∈ unionOf (dropNullability type.toList), piece ≠ [])
    (name description : Option String) :
    ∃ param, ofParts (some type) name description = .ok param ∧
      param.types = (unionOf (dropNullability type.toList)).map String.ofList ∧
      ∀ alternative ∈ param.types, typeBrackets.Nested alternative.toList := by
  have cut := (alternatives_eq_iff _).2 readable
  have isText : type ≠ "" := by
    rintro rfl
    exact nonempty [] (by decide) rfl
  have types_eq := types_withType isText {}
  rw [cut] at types_eq
  have noneEmpty : "" ∉ (withType (some type) {}).types := by
    rw [types_eq]
    intro isEmpty
    obtain ⟨piece, isPiece, same⟩ := List.mem_map.1 isEmpty
    exact nonempty piece isPiece (String.ofList_eq_empty_iff.1 same)
  obtain ⟨param, made, types⟩ := exists_ofParts noneEmpty name description
  rw [types_eq] at types
  refine ⟨param, made, types, ?_⟩
  rw [types, List.forall_mem_map]
  intro piece isPiece
  rw [String.toList_ofList]
  exact nested_unionOf (nested_dropNullability nested) piece isPiece

/-- A repeated union may hold brackets of its own. -/
theorem repeated_types_split :
    typeBrackets.Nested "?...(a[]|Map<b,c>|\x7bx: y\x7d)".toList ∧
    Readable (dropNullability "?...(a[]|Map<b,c>|\x7bx: y\x7d)".toList) ∧
    ∃ param, ofParts (some "?...(a[]|Map<b,c>|\x7bx: y\x7d)") (some "x") none = .ok param ∧
      param.types = ["...a[]", "Map<b,c>", "\x7bx: y\x7d"] ∧
      ∀ alternative ∈ param.types, typeBrackets.Nested alternative.toList := by
  have nested : typeBrackets.Nested "?...(a[]|Map<b,c>|\x7bx: y\x7d)".toList := by decide +kernel
  have repeats : repeated? (dropNullability "?...(a[]|Map<b,c>|\x7bx: y\x7d)".toList) =
      some "a[]|Map<b,c>|\x7bx: y\x7d".toList := by decide +kernel
  have readable : Readable (dropNullability "?...(a[]|Map<b,c>|\x7bx: y\x7d)".toList) :=
    .repeated repeats (by decide +kernel)
  obtain ⟨param, made, types, nestedTypes⟩ :=
    unions_split_at_outer_bars nested readable (by decide +kernel) (some "x") none
  exact ⟨nested, readable, param, made, types.trans (by decide +kernel), nestedTypes⟩

/-- The bar of a repeated union stands in parentheses, and yet the union is cut there. -/
theorem repeated_union_distributed :
    typeBrackets.Nested "...(a|b)".toList ∧
    dropNullability "...(a|b)".toList = "...(a|b)".toList ∧
    unionPieces ((group? "...(a|b)".toList).getD "...(a|b)".toList) = ["...(a|b)".toList] ∧
    ∃ param, ofParts (some "...(a|b)") (some "x") none = .ok param ∧
      param.types = ["...a", "b"] := by
  refine ⟨by decide +kernel, by decide +kernel, by decide +kernel, _, rfl, ?_⟩
  decide +kernel

end DocHarvest.Param
