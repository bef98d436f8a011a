import DocHarvest.Proofs.Value.Numbers
import DocHarvest.Proofs.Value.Plain
import DocHarvest.Proofs.Value.Strings
import Mathlib.Data.List.Forall2

/-!
# Indented JSON text read back

A plain value whose integers are short enough is read back from its indented JSON text. The proof
goes over the values, with one lemma for the items of lists and one for the members of objects. The
fuel of the readers is compared with the length of the text that is left to read: a reader that
hands its text on as it is needs one more than twice that length.
-/

namespace DocHarvest.Value

variable {text rest gap close : List Char} {value : Value}

/-! ## Gaps -/

theorem skipBlanks_append (isGap : ∀ character ∈ gap, isJsonBlank character) (rest : List Char) :
    skipBlanks (gap ++ rest) = skipBlanks rest :=
  List.dropWhile_append_of_pos isGap

theorem skipBlanks_cons {first : Char} (noBlank : isJsonBlank first = false) (rest : List Char) :
    skipBlanks (first :: rest) = first :: rest :=
  List.dropWhile_cons_of_neg (by simp [noBlank])

theorem endsNumber_append (isGap : ∀ character ∈ gap, isJsonBlank character)
    (ends : EndsNumber rest) : EndsNumber (gap ++ rest) := by
  refine head_append (fun character isHead => ?_) ends
  have isBlank := isGap character (List.mem_of_mem_head? isHead)
  simp only [isJsonBlank, Bool.or_eq_true, beq_iff_eq] at isBlank
  rcases isBlank with ((rfl | rfl) | rfl) | rfl <;> decide

theorem isJsonBlank_newLine (level : Nat) :
    ∀ character ∈ (newLine level).toList, isJsonBlank character := by
  intro character isMember
  rw [newLine, String.toList_ofList, List.mem_cons, List.mem_replicate] at isMember
  rcases isMember with rfl | ⟨-, rfl⟩ <;> rfl

/-! ## Texts of values -/

/-- A text that a value is read off, whatever follows that a number does not go on with. -/
structure ReadAs (text : List Char) (value : Value) : Prop where
  starts : ∃ first others, text = first :: others ∧ isJsonBlank first = false ∧ first ≠ ']'
  read : ∀ {rest : List Char} {fuel : Nat}, EndsNumber rest → 2 * (text ++ rest).length < fuel →
    value? fuel (text ++ rest) = some (value, rest)

theorem scalar?_of_mark {mark : Char}
    (isMark : mark ∈ [' ', '\t', '\n', '\r', '[', ']', '\x7b']) (rest : List Char) :
    scalar? (mark :: rest) = none := by
  simp only [List.mem_cons, List.not_mem_nil, or_false] at isMark
  rcases isMark with rfl | rfl | rfl | rfl | rfl | rfl | rfl <;>
    simp [scalar?, name?, names, List.isPrefixOf?, number?, wholePart?]

theorem ReadAs.of_scalar
    (read : ∀ rest, EndsNumber rest → scalar? (text ++ rest) = some (value, rest)) :
    ReadAs text value := by
  have isRead := read [] (by simp [EndsNumber])
  rw [List.append_nil] at isRead
  cases text with
  | nil => simp [scalar?, name?, names, List.isPrefixOf?, number?, wholePart?] at isRead
  | cons first others =>
      have noMark : first ∉ [' ', '\t', '\n', '\r', '[', ']', '\x7b'] := fun isMark => by
        simp [scalar?_of_mark isMark] at isRead
      simp only [List.mem_cons, List.not_mem_nil, or_false, not_or] at noMark
      obtain ⟨noSpace, noTab, noNewline, noReturn, noBracket, noClosing, noBrace⟩ := noMark
      refine ⟨⟨first, others, rfl, by simp [isJsonBlank, *], noClosing⟩,
        fun {rest fuel} ends fits => ?_⟩
      cases fuel with
      | zero => omega
      | succ fuel =>
          rw [← read rest ends, List.cons_append, value?]
          · simp [noBracket]
          · simp [noBrace]

/-! ## Lists and objects -/

theorem endsNumber_of_mark {mark : Char} (isMark : mark ∈ [',', ']', '\x7d']) (rest : List Char) :
    EndsNumber (mark :: rest) := by
  simp only [List.mem_cons, List.not_mem_nil, or_false] at isMark
  rintro character ⟨⟩
  rcases isMark with rfl | rfl | rfl <;> decide

theorem exists_join_eq (separator piece : List Char) (pieces : List (List Char)) :
    ∃ more, Text.join separator (piece :: pieces) = piece ++ more := by
  cases pieces with
  | nil => exact ⟨[], by simp [Text.join]⟩
  | cons next others =>
      exact ⟨separator ++ Text.join separator (next :: others),
        by simp [Text.join, List.intercalate_cons_cons]⟩

/-- Items between commas are read off up to the closing bracket. -/
theorem items?_join (isGap : ∀ character ∈ gap, isJsonBlank character)
    (isClose : ∀ character ∈ close, isJsonBlank character) {texts : List (List Char)}
    {items : List Value} (read : List.Forall₂ ReadAs texts items) (isSome : items ≠ []) {fuel : Nat}
    (fits : 2 * (Text.join (',' :: gap) texts ++ (close ++ ']' :: rest)).length + 1 < fuel) :
    items? fuel (Text.join (',' :: gap) texts ++ (close ++ ']' :: rest)) = some (items, rest) := by
  induction read generalizing fuel with
  | nil => exact absurd rfl isSome
  | @cons text item texts items ofText ofTexts ih =>
      obtain ⟨fuel, rfl⟩ : ∃ less, fuel = less + 1 := ⟨fuel - 1, by omega⟩
      cases ofTexts with
      | nil =>
          have ends : EndsNumber (close ++ ']' :: rest) :=
            endsNumber_append isClose (endsNumber_of_mark (by simp) rest)
          have single : Text.join (',' :: gap) [text] = text := by simp [Text.join]
          rw [single] at fits ⊢
          rw [items?, ofText.read ends (by omega)]
          dsimp only
          rw [skipBlanks_append isClose, skipBlanks_cons (by rfl)]
          rfl
      | @cons next nextItem others otherItems ofNext ofOthers =>
          obtain ⟨first, inner, isNext, noBlank, -⟩ := ofNext.starts
          set tail := Text.join (',' :: gap) (next :: others) ++ (close ++ ']' :: rest) with isTail
          have joined : Text.join (',' :: gap) (text :: next :: others) ++ (close ++ ']' :: rest) =
              text ++ ',' :: (gap ++ tail) := by
            simp [Text.join, isTail, List.intercalate_cons_cons]
          have tailStarts : skipBlanks tail = tail := by
            obtain ⟨more, isMore⟩ := exists_join_eq (',' :: gap) next others
            rw [isTail, isMore, isNext]
            exact skipBlanks_cons noBlank _
          rw [joined] at fits ⊢
          simp only [List.length_append, List.length_cons] at fits
          rw [items?, ofText.read (endsNumber_of_mark (by simp) _)
            (by simp only [List.length_append, List.length_cons]; omega)]
          dsimp only
          rw [skipBlanks_cons (by rfl)]
          change (items? fuel (skipBlanks (gap ++ tail))).map _ = _
          rw [skipBlanks_append isGap, tailStarts, ih (by simp) (by omega)]
          rfl

/-- A text that a member of an object is read off. -/
structure ReadAsMember (text : List Char) (member : String × Value) : Prop where
  read : ∃ inner, text = (jsonString member.1).toList ++ ':' :: ' ' :: inner ∧ ReadAs inner member.2

/-- One member is read off; after it the object ends, or the next member follows. -/
theorem members?_member {member : String × Value} (ofText : ReadAsMember text member)
    {known : List (String × Value)} (absent : member.1 ∉ known.map Prod.fst) {fuel : Nat}
    (ends : EndsNumber rest) (fits : 2 * (text ++ rest).length < fuel + 1) :
    (∀ left, skipBlanks rest = '\x7d' :: left →
      members? (fuel + 1) known (text ++ rest) = some (known ++ [member], left)) ∧
    (∀ next, skipBlanks rest = ',' :: next →
      members? (fuel + 1) known (text ++ rest) =
        members? fuel (known ++ [member]) (skipBlanks next)) := by
  obtain ⟨inner, rfl, ofInner⟩ := ofText.read
  obtain ⟨first, others, isInner, noBlank, -⟩ := ofInner.starts
  have chars : (jsonString member.1).toList ++ ':' :: ' ' :: inner ++ rest =
      '"' :: (member.1.toList.flatMap jsonEscape ++ '"' :: ':' :: ' ' :: (inner ++ rest)) := by
    simp [toList_jsonString]
  have innerStarts : skipBlanks (' ' :: (inner ++ rest)) = inner ++ rest := by
    rw [isInner]
    exact skipBlanks_cons noBlank _
  have innerFits : 2 * (inner ++ rest).length < fuel := by
    simp only [List.length_append, List.length_cons] at fits ⊢
    omega
  rw [chars, members?, string?_flatMap]
  dsimp only
  rw [skipBlanks_cons (by rfl)]
  simp only [innerStarts, ofInner.read ends innerFits, setMember_of_absent absent]
  constructor
  · intro left isLeft
    simp only [isLeft]
  · intro next isNext
    simp only [isNext]

/-- Members between commas are read off up to the closing brace. -/
theorem members?_join (isGap : ∀ character ∈ gap, isJsonBlank character)
    (isClose : ∀ character ∈ close, isJsonBlank character) {texts : List (List Char)}
    {members known : List (String × Value)} (read : List.Forall₂ ReadAsMember texts members)
    (isSome : members ≠ []) (different : ((known ++ members).map Prod.fst).Nodup) {fuel : Nat}
    (fits : 2 * (Text.join (',' :: gap) texts ++ (close ++ '\x7d' :: rest)).length < fuel) :
    members? fuel known (Text.join (',' :: gap) texts ++ (close ++ '\x7d' :: rest)) =
      some (known ++ members, rest) := by
  induction read generalizing fuel known with
  | nil => exact absurd rfl isSome
  | @cons text member texts members ofText ofTexts ih =>
      obtain ⟨fuel, rfl⟩ : ∃ less, fuel = less + 1 := ⟨fuel - 1, by omega⟩
      have absent : member.1 ∉ known.map Prod.fst := fun isKnown => by
        rw [List.map_append, List.nodup_append] at different
        exact different.2.2 _ isKnown _ (by simp) rfl
      cases ofTexts with
      | nil =>
          have ends : EndsNumber (close ++ '\x7d' :: rest) :=
            endsNumber_append isClose (endsNumber_of_mark (by simp) rest)
          have single : Text.join (',' :: gap) [text] = text := by simp [Text.join]
          rw [single] at fits ⊢
          apply (members?_member ofText absent ends fits).1
          rw [skipBlanks_append isClose, skipBlanks_cons (by rfl)]
      | @cons next nextMember others otherMembers ofNext ofOthers =>
          obtain ⟨inner, isNext, -⟩ := ofNext.read
          set tail := Text.join (',' :: gap) (next :: others) ++ (close ++ '\x7d' :: rest)
            with isTail
          have joined : Text.join (',' :: gap) (text :: next :: others) ++
              (close ++ '\x7d' :: rest) = text ++ ',' :: (gap ++ tail) := by
            simp [Text.join, isTail, List.intercalate_cons_cons]
          have tailStarts : skipBlanks tail = tail := by
            obtain ⟨more, isMore⟩ := exists_join_eq (',' :: gap) next others
            rw [isTail, isMore, isNext, toList_jsonString]
            exact skipBlanks_cons (by rfl) _
          rw [joined] at fits ⊢
          rw [(members?_member ofText absent (endsNumber_of_mark (by simp) _) fits).2 (gap ++ tail)
            (skipBlanks_cons (by rfl) _)]
          simp only [List.length_append, List.length_cons] at fits
          rw [skipBlanks_append isGap, tailStarts,
            ih (by simp) (by simpa using different) (by omega)]
          simp

/-- The text of a list between brackets. -/
theorem readAs_items (isGap : ∀ character ∈ gap, isJsonBlank character)
    (isClose : ∀ character ∈ close, isJsonBlank character) {texts : List (List Char)}
    {items : List Value} (ofTexts : List.Forall₂ ReadAs texts items) (isSome : items ≠ []) :
    ReadAs ('[' :: (gap ++ (Text.join (',' :: gap) texts ++ (close ++ [']'])))) (.list items) := by
  refine ⟨⟨'[', _, rfl, rfl, by decide⟩, fun {rest fuel} _ fits => ?_⟩
  obtain ⟨fuel, rfl⟩ : ∃ less, fuel = less + 1 := ⟨fuel - 1, by omega⟩
  have isRead
      (fits : 2 * (Text.join (',' :: gap) texts ++ (close ++ ']' :: rest)).length + 1 < fuel) :
      items? fuel (Text.join (',' :: gap) texts ++ (close ++ ']' :: rest)) = some (items, rest) :=
    items?_join isGap isClose ofTexts isSome fits
  have starts : ∃ first others, isJsonBlank first = false ∧ first ≠ ']' ∧
      Text.join (',' :: gap) texts = first :: others := by
    cases ofTexts with
    | nil => exact absurd rfl isSome
    | @cons text item texts items ofText _ =>
        obtain ⟨first, inner, isFirst, noBlank, noClosing⟩ := ofText.starts
        obtain ⟨more, isMore⟩ := exists_join_eq (',' :: gap) text texts
        exact ⟨first, inner ++ more, noBlank, noClosing, by rw [isMore, isFirst, List.cons_append]⟩
  obtain ⟨first, others, noBlank, noClosing, isJoined⟩ := starts
  rw [isJoined] at isRead fits ⊢
  simp only [List.cons_append, List.append_assoc, List.length_cons, List.length_append] at fits
  simp only [List.cons_append, List.append_assoc, List.nil_append] at isRead ⊢
  rw [value?, skipBlanks_append isGap, skipBlanks_cons noBlank]
  split
  · rename_i isClosing
    exact absurd (List.cons.inj isClosing).1 noClosing
  · rw [isRead (by simp only [List.length_cons, List.length_append]; omega)]
    rfl

/-- The text of an object between braces. -/
theorem readAs_members (isGap : ∀ character ∈ gap, isJsonBlank character)
    (isClose : ∀ character ∈ close, isJsonBlank character) {texts : List (List Char)}
    {members : List (String × Value)} (ofTexts : List.Forall₂ ReadAsMember texts members)
    (isSome : members ≠ []) (different : (members.map Prod.fst).Nodup) :
    ReadAs ('\x7b' :: (gap ++ (Text.join (',' :: gap) texts ++ (close ++ ['\x7d']))))
      (.object members) := by
  refine ⟨⟨'\x7b', _, rfl, rfl, by decide⟩, fun {rest fuel} _ fits => ?_⟩
  obtain ⟨fuel, rfl⟩ : ∃ less, fuel = less + 1 := ⟨fuel - 1, by omega⟩
  have isRead
      (fits : 2 * (Text.join (',' :: gap) texts ++ (close ++ '\x7d' :: rest)).length < fuel) :
      members? fuel [] (Text.join (',' :: gap) texts ++ (close ++ '\x7d' :: rest)) =
        some (members, rest) :=
    members?_join isGap isClose ofTexts isSome (by simpa using different) fits
  have starts : ∃ others, Text.join (',' :: gap) texts = '"' :: others := by
    cases ofTexts with
    | nil => exact absurd rfl isSome
    | @cons text member texts members ofText _ =>
        obtain ⟨inner, isText, -⟩ := ofText.read
        obtain ⟨more, isMore⟩ := exists_join_eq (',' :: gap) text texts
        rw [isMore, isText, toList_jsonString]
        exact ⟨_, rfl⟩
  obtain ⟨others, isJoined⟩ := starts
  rw [isJoined] at isRead fits ⊢
  simp only [List.cons_append, List.append_assoc, List.length_cons, List.length_append] at fits
  simp only [List.cons_append, List.append_assoc, List.nil_append] at isRead ⊢
  rw [value?, skipBlanks_append isGap, skipBlanks_cons (by rfl)]
  split
  · rename_i isClosing
    cases isClosing
  · rw [isRead (by simp only [List.length_cons, List.length_append]; omega)]
    rfl

/-! ## Values -/

theorem indentedItems_eq (level : Nat) (items : List Value) :
    indentedItems level items = items.map (toIndentedJson level) := by
  induction items with
  | nil => rfl
  | cons item rest ih => simp [indentedItems, ih]

theorem indentedMembers_eq (level : Nat) (members : List (String × Value)) :
    indentedMembers level members =
      members.map fun member => jsonString member.1 ++ ": " ++ member.2.toIndentedJson level := by
  induction members with
  | nil => rfl
  | cons member rest ih => simp [indentedMembers, ih]

theorem toList_bracketed (openBracket closeBracket : String) (level : Nat) {parts : List String}
    (isSome : parts ≠ []) :
    (bracketed openBracket closeBracket level parts).toList =
      openBracket.toList ++ ((newLine (level + 1)).toList ++
        (Text.join (',' :: (newLine (level + 1)).toList) (parts.map String.toList) ++
          ((newLine level).toList ++ closeBracket.toList))) := by
  simp [bracketed, isSome, Text.joinStrings]

theorem readAs_list {items : List Value} (level : Nat)
    (read : ∀ item ∈ items, ReadAs (item.toIndentedJson (level + 1)).toList item) :
    ReadAs ((Value.list items).toIndentedJson level).toList (.list items) := by
  rw [toIndentedJson, indentedItems_eq]
  by_cases isNone : items = []
  · subst isNone
    refine ⟨⟨'[', [']'], by simp [bracketed], rfl, by decide⟩, fun {rest fuel} _ fits => ?_⟩
    obtain ⟨fuel, rfl⟩ : ∃ less, fuel = less + 1 := ⟨fuel - 1, by omega⟩
    simp [bracketed, value?, skipBlanks, isJsonBlank]
  · rw [toList_bracketed _ _ _ (by simpa using isNone)]
    refine readAs_items (isJsonBlank_newLine (level + 1)) (isJsonBlank_newLine level) ?_ isNone
    rw [List.map_map, List.forall₂_map_left_iff]
    exact List.forall₂_same.2 read

theorem readAs_object {members : List (String × Value)} (level : Nat)
    (different : (members.map Prod.fst).Nodup)
    (read : ∀ member ∈ members, ReadAs (member.2.toIndentedJson (level + 1)).toList member.2) :
    ReadAs ((Value.object members).toIndentedJson level).toList (.object members) := by
  rw [toIndentedJson, indentedMembers_eq]
  by_cases isNone : members = []
  · subst isNone
    refine ⟨⟨'\x7b', ['\x7d'], by simp [bracketed], rfl, by decide⟩, fun {rest fuel} _ fits => ?_⟩
    obtain ⟨fuel, rfl⟩ : ∃ less, fuel = less + 1 := ⟨fuel - 1, by omega⟩
    simp [bracketed, value?, skipBlanks, isJsonBlank]
  · rw [toList_bracketed _ _ _ (by simpa using isNone)]
    refine readAs_members (isJsonBlank_newLine (level + 1)) (isJsonBlank_newLine level) ?_ isNone
      different
    rw [List.map_map, List.forall₂_map_left_iff]
    exact List.forall₂_same.2 fun member isMember => ⟨_, by simp, read member isMember⟩

/-- A plain value whose integers are short enough is read off its indented JSON text. -/
theorem readAs_toIndentedJson {value : Value} (isPlain : value.IsPlain)
    (isWritable : value.isWritable) (level : Nat) :
    ReadAs (value.toIndentedJson level).toList value := by
  induction value using Value.induction generalizing level with
  | null =>
      refine .of_scalar fun rest _ => ?_
      simp [toIndentedJson, scalar?, name?, names, List.isPrefixOf?]
  | boolean truth =>
      refine .of_scalar fun rest _ => ?_
      cases truth <;> simp [toIndentedJson, scalar?, name?, names, List.isPrefixOf?]
  | integer number => exact .of_scalar fun rest ends => scalar?_integer isWritable ends
  | real number => exact .of_scalar fun rest ends => scalar?_real isPlain ends
  | text content =>
      refine .of_scalar fun rest _ => ?_
      simp [toIndentedJson, toList_jsonString, scalar?, name?, names, List.isPrefixOf?,
        string?_flatMap]
  | list items ih =>
      rw [IsPlain, arePlain_iff] at isPlain
      rw [Value.isWritable, areWritable_iff] at isWritable
      exact readAs_list level fun item isMember =>
        ih item isMember (isPlain item isMember) (isWritable item isMember) (level + 1)
  | object members ih =>
      rw [IsPlain, membersArePlain_iff] at isPlain
      rw [Value.isWritable, membersAreWritable_iff] at isWritable
      exact readAs_object level isPlain.1 fun member isMember =>
        ih member isMember (isPlain.2 member isMember) (isWritable member isMember) (level + 1)

/-- A plain value whose integers are short enough is read back from its indented JSON text. -/
theorem ofJson?_toIndentedJson {value : Value} (isPlain : value.IsPlain)
    (isWritable : value.isWritable) : ofJson? (value.toIndentedJson 0) = some value := by
  have isRead := readAs_toIndentedJson isPlain isWritable 0
  obtain ⟨first, others, isText, noBlank, -⟩ := isRead.starts
  have starts : skipBlanks (value.toIndentedJson 0).toList = (value.toIndentedJson 0).toList := by
    rw [isText]
    exact skipBlanks_cons noBlank others
  have read : value? (2 * (value.toIndentedJson 0).toList.length + 1)
      (value.toIndentedJson 0).toList = some (value, []) := by
    have whole := isRead.read (show EndsNumber [] by simp [EndsNumber])
      (Nat.lt_succ_self (2 * ((value.toIndentedJson 0).toList ++ []).length))
    rwa [List.append_nil] at whole
  unfold ofJson?
  dsimp only
  rw [starts, read]
  rfl

end DocHarvest.Value
