import DocHarvest.Param.Split
import DocHarvest.Proofs.Text.Brackets
import DocHarvest.Proofs.Text.Trimming

/-!
# Tag values and their parts

A tag value that is written as `{type} name - description` is split into what it was written from, as
long as no brace within the type is followed by whitespace and the name is one word or stands in
brackets. Whatever the value is, its parts make it up again, in order, together with the braces of
the type, one dash and whitespace.
-/

namespace DocHarvest.Param

variable {text type name description left rest : List Char}

/-! ## Types -/

/-- A type is read up to the first closing brace that whitespace or the end follows. -/
theorem bracedType?_append (noAt : '@' ∉ type)
    (unclosed : ∀ before after, type = before ++ '\x7d' :: after →
      endsWord (after ++ '\x7d' :: rest) = false)
    (ends : endsWord rest) :
    bracedType? (type ++ '\x7d' :: rest) = some (type, rest.dropWhile Text.isBlank) := by
  induction type with
  | nil => simp [bracedType?, ends]
  | cons head type ih =>
      rw [List.mem_cons, not_or] at noAt
      have goesOn : (head == '\x7d' && endsWord (type ++ '\x7d' :: rest)) = false := by
        by_cases brace : head = '\x7d'
        · simp [unclosed [] type (by simp [brace])]
        · simp [brace]
      have later := ih noAt.2 fun before after cut =>
        unclosed (head :: before) after (by simp [cut])
      simp [bracedType?, goesOn, Ne.symm noAt.1, later]

theorem exists_of_bracedType? (found : bracedType? text = some (type, left)) :
    ∃ rest, text = type ++ '\x7d' :: rest ∧ '@' ∉ type ∧ endsWord rest ∧
      left = rest.dropWhile Text.isBlank := by
  induction text generalizing type with
  | nil => cases found
  | cons head text ih =>
      rw [bracedType?] at found
      split at found
      · next closing =>
        rw [Bool.and_eq_true, beq_iff_eq] at closing
        obtain ⟨rfl, rfl⟩ := Prod.mk.inj (Option.some.inj found)
        exact ⟨text, by simp [closing.1], by simp, closing.2, rfl⟩
      · split at found
        · cases found
        · next notAt =>
          rw [beq_iff_eq] at notAt
          obtain ⟨⟨later, _⟩, foundLater, same⟩ := Option.map_eq_some_iff.1 found
          obtain ⟨rfl, rfl⟩ := Prod.mk.inj same
          obtain ⟨rest, whole, noAt, ends, left_eq⟩ := ih foundLater
          exact ⟨rest, by simp [whole], by simp [Ne.symm notAt, noAt], ends, left_eq⟩

theorem bracedType?_ne_none (noAt : '@' ∉ type) (ends : endsWord rest) :
    bracedType? (type ++ '\x7d' :: rest) ≠ none := by
  induction type with
  | nil => simp [bracedType?, ends]
  | cons head type ih =>
      rw [List.mem_cons, not_or] at noAt
      rw [List.cons_append, bracedType?]
      split
      · simp
      · simpa [Ne.symm noAt.1] using ih noAt.2

/-- A type in braces at the start of a text, which whitespace or the end follows. -/
structure Braced (text type rest : List Char) : Prop where
  whole : text = '\x7b' :: (type ++ '\x7d' :: rest)
  noAt : '@' ∉ type
  ends : endsWord rest

/-- The type at the start of a text and what it takes of it: without braces, nothing is any type. -/
inductive ReadsType (text : List Char) : List Char → List Char → Prop
  | braced {type space rest : List Char} (isBraced : Braced text type (space ++ rest))
      (blank : ∀ character ∈ space, Text.isBlank character) :
      ReadsType text type ('\x7b' :: (type ++ '\x7d' :: space))
  | anything (unbraced : ∀ type rest, ¬ Braced text type rest) : ReadsType text ['*'] []

theorem splitType_of_ne_brace {head : Char} (notBrace : head ≠ '\x7b') (tail : List Char) :
    splitType (head :: tail) = (['*'], head :: tail) := by
  unfold splitType
  split
  · next same => exact absurd (List.cons.inj same).1 notBrace
  · rfl

theorem readsType_splitType (text : List Char) :
    ∃ front, ReadsType text (splitType text).1 front ∧ text = front ++ (splitType text).2 := by
  rcases text with _ | ⟨head, tail⟩
  · exact ⟨[], .anything fun type rest isBraced => List.cons_ne_nil _ _ isBraced.whole.symm, rfl⟩
  · by_cases brace : head = '\x7b'
    · subst brace
      cases found : bracedType? tail with
      | none =>
          simp only [splitType, found, Option.getD_none]
          refine ⟨[], .anything ?_, rfl⟩
          intro type rest isBraced
          rw [(List.cons.inj isBraced.whole).2] at found
          exact bracedType?_ne_none isBraced.noAt isBraced.ends found
      | some parts =>
          obtain ⟨rest, whole, noAt, ends, left_eq⟩ := exists_of_bracedType? found
          obtain ⟨space, rest_eq, blank⟩ := Text.exists_trimStart rest
          rw [Text.trimStart, ← left_eq] at rest_eq
          rw [rest_eq] at whole ends
          simp only [splitType, found, Option.getD_some]
          refine ⟨_, .braced ⟨congrArg _ whole, noAt, ends⟩ blank, ?_⟩
          simp [whole]
    · rw [splitType_of_ne_brace brace]
      refine ⟨[], .anything ?_, rfl⟩
      intro type rest isBraced
      exact brace (List.cons.inj isBraced.whole).1

theorem starts_splitType (starts : ∀ first ∈ text.head?, Text.isBlank first = false) :
    ∀ first ∈ (splitType text).2.head?, Text.isBlank first = false := by
  rcases text with _ | ⟨head, tail⟩
  · exact starts
  · by_cases brace : head = '\x7b'
    · subst brace
      cases found : bracedType? tail with
      | none => simpa only [splitType, found, Option.getD_none] using starts
      | some parts =>
          obtain ⟨rest, -, -, -, left_eq⟩ := exists_of_bracedType? found
          simp only [splitType, found, Option.getD_some, left_eq]
          exact Text.head?_trimStart rest
    · rwa [splitType_of_ne_brace brace]

/-! ## Names -/

/-- The brackets around a name. -/
def squares : Text.Brackets := [('[', ']')]

theorem weight_squares (character : Char) :
    squares.weight character =
      if character = '[' then 1 else if character = ']' then -1 else 0 := by
  by_cases opens : character = '['
  · subst opens
    rfl
  · have notOpening : squares.closing? character = none := by
      simp [squares, Text.Brackets.closing?, opens]
    have isClosing : squares.isClosing character ↔ character = ']' := by
      simp [squares, Text.Brackets.isClosing, eq_comm (a := character)]
    simp [Text.Brackets.weight, notOpening, isClosing, opens]

/-- A text in brackets: the first one is closed by the last character and not before. -/
structure IsBracketed (name : List Char) : Prop where
  starts : name.head? = some '['
  closed : squares.depth name = 0
  inside : ∀ count < name.length, 0 < count → squares.depth (name.take count) ≠ 0

/-- Brackets around a nested text are closed at its end. -/
theorem IsBracketed.of_nested {inner : List Char} (nested : squares.Nested inner) :
    IsBracketed ('[' :: (inner ++ [']'])) := by
  have opens : squares.weight '[' = 1 := rfl
  have closes : squares.weight ']' = -1 := rfl
  refine ⟨rfl, by simp [opens, closes, nested.depth_eq_zero], ?_⟩
  rintro (_ | count) shorter positive
  · cases positive
  · have atMost : count ≤ inner.length := by
      simp only [List.length_cons, List.length_append, List.length_nil] at shorter
      omega
    have whole : inner.take count ++ inner.drop count = inner := List.take_append_drop count inner
    rw [← whole] at nested
    have nonneg := nested.depth_nonneg
    rw [List.take_succ_cons, List.take_append_of_le_length atMost, Text.Brackets.depth_cons, opens]
    omega

/-- A name is a word without a bracket in front, or a text in brackets. -/
inductive IsName (name : List Char) : Prop
  | word (nonempty : name ≠ []) (solid : ∀ character ∈ name, Text.isBlank character = false)
      (unbracketed : name.head? ≠ some '[')
  | bracketed (isBracketed : IsBracketed name)

theorem IsName.starts (isName : IsName name) :
    ∀ first ∈ name.head?, Text.isBlank first = false := by
  intro first isFirst
  cases isName with
  | word _ solid _ => exact solid first (List.mem_of_mem_head? isFirst)
  | bracketed isBracketed =>
      rw [Option.mem_def, isBracketed.starts] at isFirst
      cases isFirst
      decide

theorem IsName.nonempty (isName : IsName name) : name ≠ [] := by
  cases isName with
  | word nonempty _ _ => exact nonempty
  | bracketed isBracketed =>
      rintro rfl
      cases isBracketed.starts

/-- Inside of brackets, a text is read up to the place where the depth is zero. -/
theorem bracketed_append {level : Nat} (positive : 0 < level)
    (closed : level + squares.depth name = 0)
    (inside : ∀ before after, name = before ++ after → after ≠ [] →
      level + squares.depth before ≠ 0) (rest : List Char) :
    bracketed level (name ++ rest) = (name, rest) := by
  induction name generalizing level with
  | nil =>
      rw [Text.Brackets.depth_nil] at closed
      omega
  | cons head name ih =>
      rw [Text.Brackets.depth_cons] at closed
      have insideLater (before after : List Char) (cut : name = before ++ after)
          (nonempty : after ≠ []) : level + squares.weight head + squares.depth before ≠ 0 := by
        have now := inside (head :: before) after (by simp [cut]) nonempty
        rwa [Text.Brackets.depth_cons, ← Int.add_assoc] at now
      rw [List.cons_append, bracketed]
      generalize deeper_eq : (if head == '[' then level + 1
        else if head == ']' then level - 1 else level) = deeper
      have deeper_cast : (deeper : Int) = level + squares.weight head := by
        rw [weight_squares, ← deeper_eq]
        split <;> split <;> simp_all <;> omega
      simp only [← deeper_cast] at insideLater
      rw [← Int.add_assoc, ← deeper_cast] at closed
      by_cases atEnd : deeper = 0
      · have isLast : name = [] := by
          by_contra nonempty
          exact insideLater [] name rfl nonempty (by simp [atEnd])
        simp [atEnd, isLast]
      · simp [atEnd, ih (Nat.pos_of_ne_zero atEnd) closed insideLater]

theorem bracketed_parts (level : Nat) (text : List Char) :
    (bracketed level text).1 ++ (bracketed level text).2 = text := by
  induction text generalizing level with
  | nil => rfl
  | cons head text ih =>
      rw [bracketed]
      generalize (if head == '[' then level + 1
        else if head == ']' then level - 1 else level) = deeper
      by_cases atEnd : deeper = 0 <;> simp [atEnd, ih]

theorem IsBracketed.bracketed_append (isBracketed : IsBracketed name) (rest : List Char) :
    bracketed 0 (name ++ rest) = (name, rest) := by
  obtain ⟨tail, rfl⟩ := List.head?_eq_some_iff.1 isBracketed.starts
  have opens : squares.weight '[' = 1 := rfl
  have closed : ((1 : Nat) : Int) + squares.depth tail = 0 := by
    simpa [opens] using isBracketed.closed
  have inside (before after : List Char) (cut : tail = before ++ after) (nonempty : after ≠ []) :
      ((1 : Nat) : Int) + squares.depth before ≠ 0 := by
    have shorter : before.length < tail.length := by
      simpa [cut, List.length_pos_iff] using nonempty
    have whole := isBracketed.inside (before.length + 1) (by simpa using shorter) (by simp)
    simpa [cut, opens] using whole
  simp [bracketed, Param.bracketed_append Nat.one_pos closed inside]

theorem splitName_of_unbracketed (unbracketed : text.head? ≠ some '[') :
    splitName text =
      if (text.takeWhile (!Text.isBlank ·)).isEmpty then (none, text)
      else (some (text.takeWhile (!Text.isBlank ·)),
        (text.dropWhile (!Text.isBlank ·)).dropWhile Text.isBlank) := by
  unfold splitName
  split
  · exact absurd rfl unbracketed
  · rfl

/-- A name is read up to the whitespace behind it. -/
theorem splitName_append (isName : IsName name) {blank : Char} (isBlank : Text.isBlank blank)
    (trimmed : Text.IsTrimmed rest) : splitName (name ++ blank :: rest) = (some name, rest) := by
  cases isName with
  | word nonempty solid unbracketed =>
      have isWord : ∀ character ∈ name, (!Text.isBlank character) = true := by simpa using solid
      have starts : (name ++ blank :: rest).head? ≠ some '[' := by
        rwa [List.head?_append_of_ne_nil _ nonempty]
      have taken : (name ++ blank :: rest).takeWhile (!Text.isBlank ·) = name := by
        rw [List.takeWhile_append_of_pos isWord]
        simp [isBlank]
      have dropped : (name ++ blank :: rest).dropWhile (!Text.isBlank ·) = blank :: rest := by
        rw [List.dropWhile_append_of_pos isWord]
        simp [isBlank]
      have kept : (blank :: rest).dropWhile Text.isBlank = rest := by
        rw [List.dropWhile_cons_of_pos isBlank]
        exact Text.trimStart_of_head? trimmed.starts
      rw [splitName_of_unbracketed starts, taken, dropped, kept, if_neg (by simpa using nonempty)]
  | bracketed isBracketed =>
      have parts := isBracketed.bracketed_append (blank :: rest)
      obtain ⟨tail, rfl⟩ := List.head?_eq_some_iff.1 isBracketed.starts
      rw [List.cons_append] at parts ⊢
      simp only [splitName, parts, trimmed.trim_cons isBlank]

/-- A name, the whitespace behind it and what is left make up the text that they were read from. -/
theorem exists_splitName (ends : ∀ last ∈ text.getLast?, Text.isBlank last = false) :
    ∃ gap, text = (splitName text).1.getD [] ++ gap ++ (splitName text).2 ∧
      ∀ character ∈ gap, Text.isBlank character := by
  by_cases starts : text.head? = some '['
  · obtain ⟨tail, rfl⟩ := List.head?_eq_some_iff.1 starts
    have parts := bracketed_parts 0 ('[' :: tail)
    obtain ⟨gap, whole, blank⟩ := Text.exists_trimStart (bracketed 0 ('[' :: tail)).2
    refine ⟨gap, ?_, blank⟩
    rw [← parts] at ends
    have trim_eq := Text.trim_of_getLast? (Text.getLast?_of_append ends)
    simp only [splitName, Option.getD_some, trim_eq]
    rw [List.append_assoc, ← whole, parts]
  · rw [splitName_of_unbracketed starts]
    split
    · exact ⟨[], by simp, by simp⟩
    · obtain ⟨gap, whole, blank⟩ := Text.exists_trimStart (text.dropWhile (!Text.isBlank ·))
      refine ⟨gap, ?_, blank⟩
      rw [Text.trimStart] at whole
      simp only [Option.getD_some]
      rw [List.append_assoc, ← whole, List.takeWhile_append_dropWhile]

/-- Only where nothing is left there is no name. -/
theorem eq_nil_of_splitName (starts : ∀ first ∈ text.head?, Text.isBlank first = false)
    (unnamed : (splitName text).1 = none) : text = [] ∧ (splitName text).2 = [] := by
  rcases text with _ | ⟨head, tail⟩
  · exact ⟨rfl, rfl⟩
  · have solid := starts head (by simp)
    by_cases opens : head = '['
    · simp [opens, splitName] at unnamed
    · rw [splitName_of_unbracketed (by simpa using opens)] at unnamed
      simp [solid] at unnamed

/-! ## Descriptions -/

/-- A dash, whitespace and the description make up the text that they were read from. -/
theorem exists_describe (text : List Char) :
    ∃ dash gap, text = dash ++ gap ++ describe text ∧ (dash = [] ∨ dash = ['-']) ∧
      ∀ character ∈ gap, Text.isBlank character := by
  have ⟨dash, whole, isDash⟩ :
      ∃ dash, text = dash ++ Text.dropFirst '-' text ∧ (dash = [] ∨ dash = ['-']) := by
    rcases text with _ | ⟨head, tail⟩
    · exact ⟨[], rfl, .inl rfl⟩
    · by_cases isDash : head = '-'
      · exact ⟨['-'], by simp [isDash, Text.dropFirst], .inr rfl⟩
      · exact ⟨[], by simp [isDash, Text.dropFirst], .inl rfl⟩
  obtain ⟨gap, rest_eq, blank⟩ := Text.exists_trimStart (Text.dropFirst '-' text)
  refine ⟨dash, gap, ?_, isDash, blank⟩
  rw [Text.trimStart] at rest_eq
  rw [describe, List.append_assoc, ← rest_eq, ← whole]

/-- A dash with a description behind it. -/
def dashed (description : List Char) : List Char :=
  if description.isEmpty then ['-'] else '-' :: ' ' :: description

theorem describe_dashed (trimmed : Text.IsTrimmed description) :
    describe (dashed description) = description := by
  have kept := Text.trimStart_of_head? trimmed.starts
  rw [Text.trimStart] at kept
  have isBlank : Text.isBlank ' ' := by decide
  unfold dashed
  split
  · next isEmpty =>
    rw [List.isEmpty_iff] at isEmpty
    simp [isEmpty, describe, Text.dropFirst]
  · simp [describe, Text.dropFirst, isBlank, kept]

theorem isTrimmed_dashed (trimmed : Text.IsTrimmed description) :
    Text.IsTrimmed (dashed description) := by
  unfold dashed
  split
  · decide
  · next nonempty =>
    rw [List.isEmpty_iff] at nonempty
    have solid : Text.isBlank '-' = false := by decide
    refine ⟨by simpa using solid, ?_⟩
    have whole : '-' :: ' ' :: description = ['-', ' '] ++ description := rfl
    rw [whole, List.getLast?_append_of_ne_nil _ nonempty]
    exact trimmed.ends

/-- Of a description behind a dash, whitespace at the end is trimmed. -/
theorem trim_append_dash {first : Char} (solid : Text.isBlank first = false)
    (trimmed : Text.IsTrimmed description) (before : List Char) :
    Text.trim (first :: before ++ '-' :: ' ' :: description) =
      first :: before ++ dashed description := by
  have nonempty : dashed description ≠ [] := by
    unfold dashed
    split <;> simp
  have isTrimmed : Text.IsTrimmed (first :: before ++ dashed description) := by
    refine ⟨by simpa using solid, ?_⟩
    rw [List.getLast?_append_of_ne_nil _ nonempty]
    exact (isTrimmed_dashed trimmed).ends
  cases description with
  | nil =>
      have isBlank : Text.isBlank ' ' := by decide
      have whole := isTrimmed.trim_concat isBlank
      simpa [dashed] using whole
  | cons head tail => exact isTrimmed.trim_eq

/-! ## Whole values -/

theorem split_all (value : String) :
    split {} value =
      let parts := splitType (Text.trim value.toList)
      let named := splitName parts.2
      ⟨some (String.ofList parts.1), named.1.map String.ofList,
        some (String.ofList (describe named.2))⟩ := rfl

/-- A type that can stand in braces: no brace within it ends it. -/
structure FitsBraces (type : List Char) : Prop where
  noAt : '@' ∉ type
  unclosed : ∀ blank ∈ type, Text.isBlank blank → ¬ ['\x7d', blank] <:+: type

instance : DecidablePred FitsBraces := fun type =>
  decidable_of_iff ('@' ∉ type ∧
      type.all fun blank => Text.isBlank blank → ¬ ['\x7d', blank] <:+: type) <| by
    simp only [List.all_eq_true, decide_eq_true_eq]
    constructor
    · rintro ⟨noAt, unclosed⟩
      exact ⟨noAt, unclosed⟩
    · rintro ⟨noAt, unclosed⟩
      exact ⟨noAt, unclosed⟩

/-- A type is read back from between its braces. -/
theorem splitType_append (fits : FitsBraces type) (rest : List Char) :
    splitType ('\x7b' :: (type ++ '\x7d' :: ' ' :: rest)) = (type, Text.trimStart rest) := by
  have unclosed (before after : List Char) (cut : type = before ++ '\x7d' :: after) :
      endsWord (after ++ '\x7d' :: ' ' :: rest) = false := by
    rcases after with _ | ⟨next, after⟩
    · rfl
    · rw [List.cons_append, endsWord, Bool.eq_false_iff]
      intro isBlank
      exact fits.unclosed next (by simp [cut]) isBlank ⟨before, after, by simp [cut]⟩
  have isBlank : Text.isBlank ' ' := by decide
  have ends : endsWord (' ' :: rest) := isBlank
  have found := bracedType?_append fits.noAt unclosed ends
  rw [List.dropWhile_cons_of_pos isBlank] at found
  rw [splitType, found]
  rfl

/-- A value that was written from a type, a name and a description is split into them. -/
theorem split_of_toList (fits : FitsBraces type) (isName : IsName name)
    (trimmed : Text.IsTrimmed description) (value : String)
    (written : value.toList =
      '\x7b' :: (type ++ '\x7d' :: ' ' :: (name ++ ' ' :: '-' :: ' ' :: description))) :
    split {} value =
      ⟨some (String.ofList type), some (String.ofList name), some (String.ofList description)⟩ := by
  have trim_eq : Text.trim value.toList =
      '\x7b' :: (type ++ '\x7d' :: ' ' :: (name ++ ' ' :: dashed description)) := by
    have solid : Text.isBlank '\x7b' = false := by decide
    have whole := trim_append_dash solid trimmed (type ++ '\x7d' :: ' ' :: (name ++ [' ']))
    simpa [written] using whole
  have kept : Text.trimStart (name ++ ' ' :: dashed description) =
      name ++ ' ' :: dashed description := by
    apply Text.trimStart_of_head?
    rw [List.head?_append_of_ne_nil _ isName.nonempty]
    exact isName.starts
  have typed := splitType_append fits (name ++ ' ' :: dashed description)
  have isBlank : Text.isBlank ' ' := by decide
  have named := splitName_append isName isBlank (isTrimmed_dashed trimmed)
  rw [kept] at typed
  simp only [split_all, trim_eq, typed, named, describe_dashed trimmed, Option.map_some]

/-- A tag value is split into the type, the name and the description that it was written from. -/
theorem split_written {type name description : String} (fits : FitsBraces type.toList)
    (isName : IsName name.toList) (trimmed : Text.IsTrimmed description.toList) :
    split {} ("\x7b" ++ type ++ "\x7d " ++ name ++ " - " ++ description) =
      ⟨some type, some name, some description⟩ := by
  have parts := split_of_toList fits isName trimmed
    ("\x7b" ++ type ++ "\x7d " ++ name ++ " - " ++ description) (by simp)
  simpa using parts

/-- A name in brackets may hold blanks, and a description may start with a dash. -/
theorem split_nested_default :
    FitsBraces "\x7ba: b\x7d|c".toList ∧ IsName "[x=[1, [2]] y]".toList ∧
      Text.IsTrimmed "- late".toList ∧
      split {} ("\x7b" ++ "\x7ba: b\x7d|c" ++ "\x7d " ++ "[x=[1, [2]] y]" ++ " - " ++ "- late") =
        ⟨some "\x7ba: b\x7d|c", some "[x=[1, [2]] y]", some "- late"⟩ := by
  have fits : FitsBraces "\x7ba: b\x7d|c".toList := by decide +kernel
  have isName : IsName "[x=[1, [2]] y]".toList :=
    .bracketed ⟨by decide +kernel, by decide +kernel, by decide +kernel⟩
  have trimmed : Text.IsTrimmed "- late".toList := by decide +kernel
  exact ⟨fits, isName, trimmed, split_written fits isName trimmed⟩

/--
Whatever a tag value is, its parts make it up again: what stands for the type, the name, whitespace,
a dash if there is one, whitespace, and the description. A name is absent only where nothing is left.
-/
theorem split_loses_nothing (value : String) :
    ∃ type name description, split {} value = ⟨some type, name, some description⟩ ∧
      (name = none → description = "") ∧
      ∃ front gap dash space, ReadsType (Text.trim value.toList) type.toList front ∧
        Text.trim value.toList =
          front ++ (name.getD "").toList ++ gap ++ dash ++ space ++ description.toList ∧
        (∀ character ∈ gap, Text.isBlank character) ∧ (dash = [] ∨ dash = ['-']) ∧
        ∀ character ∈ space, Text.isBlank character := by
  have trimmed := Text.isTrimmed_trim value.toList
  set text := Text.trim value.toList
  obtain ⟨front, reads, text_eq⟩ := readsType_splitType text
  have starts := starts_splitType trimmed.starts
  have ends := trimmed.ends
  rw [text_eq] at ends
  set left := (splitType text).2
  obtain ⟨gap, left_eq, blankGap⟩ := exists_splitName (Text.getLast?_of_append ends)
  set named := splitName left
  obtain ⟨dash, space, rest_eq, isDash, blankSpace⟩ := exists_describe named.2
  refine ⟨_, _, _, split_all value, ?_, front, gap, dash, space, ?_, ?_, blankGap, isDash,
    blankSpace⟩
  · intro unnamed
    have nothing := eq_nil_of_splitName starts (Option.map_eq_none_iff.1 unnamed)
    change String.ofList (describe named.2) = ""
    rw [nothing.2]
    rfl
  · simpa using reads
  · calc text = front ++ left := text_eq
      _ = front ++ (named.1.getD [] ++ gap ++ named.2) := by rw [← left_eq]
      _ = front ++ (named.1.getD [] ++ gap ++ (dash ++ space ++ describe named.2)) := by
        rw [← rest_eq]
      _ = front ++ ((named.1.map String.ofList).getD "").toList ++ gap ++ dash ++ space ++
          (String.ofList (describe named.2)).toList := by simp

end DocHarvest.Param
