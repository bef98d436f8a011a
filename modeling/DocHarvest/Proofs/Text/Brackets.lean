import DocHarvest.Proofs.Text.Cutting

/-!
# Brackets in a text

The depth of a text is the number of brackets that it opens and does not close. A text is nested if
each bracket is closed by one of its own kind, the inner ones first. A separator is outer if the text
before it has depth zero, and the outer separators cut a text into pieces. A text is cut at all of
its separators just if all of them are outer, it is left whole just if none is, and the pieces of a
nested text are nested again.
-/

namespace DocHarvest.Text

/-- Kinds of brackets, each an opening character and the one that closes it. -/
abbrev Brackets := List (Char × Char)

namespace Brackets

/-- The character that closes the bracket that a character opens. -/
def closing? (brackets : Brackets) (character : Char) : Option Char :=
  brackets.lookup character

/-- Whether a character closes some bracket. -/
def isClosing (brackets : Brackets) (character : Char) : Bool :=
  brackets.any fun kind => kind.2 == character

/-- What a character adds to the depth of a text. -/
def weight (brackets : Brackets) (character : Char) : Int :=
  if (brackets.closing? character).isSome then 1
  else if brackets.isClosing character then -1
  else 0

/-- The number of brackets that a text opens and does not close. -/
def depth (brackets : Brackets) : List Char → Int
  | [] => 0
  | character :: rest => brackets.weight character + brackets.depth rest

/-- The brackets that are left to close after a character, unless it closes the wrong one. -/
def expecting? (brackets : Brackets) (expected : List Char) (character : Char) :
    Option (List Char) :=
  match brackets.closing? character with
  | some closing => some (closing :: expected)
  | none =>
      if !brackets.isClosing character then some expected
      else if expected.head? = some character then some expected.tail
      else none

/-- Whether a text closes what it opens and then the expected brackets, each by its own kind. -/
def closes (brackets : Brackets) : List Char → List Char → Bool
  | expected, [] => expected.isEmpty
  | expected, character :: rest =>
      match brackets.expecting? expected character with
      | some left => brackets.closes left rest
      | none => false

/-- A text in which each bracket is closed by its own kind, the inner ones first. -/
def Nested (brackets : Brackets) (text : List Char) : Prop :=
  brackets.closes [] text

instance (brackets : Brackets) : DecidablePred brackets.Nested := fun text =>
  inferInstanceAs (Decidable (brackets.closes [] text = true))

/-- The depths at which the separators of a text stand, below a depth to start with. -/
def depthsFrom (brackets : Brackets) (separator : Char) : Int → List Char → List Int
  | _, [] => []
  | level, character :: rest =>
      let depths := brackets.depthsFrom separator (level + brackets.weight character) rest
      if character == separator then level :: depths else depths

/-- The pieces of a text between the separators at depth zero, below a depth to start with. -/
def piecesFrom (brackets : Brackets) (separator : Char) : Int → List Char → List (List Char)
  | _, [] => [[]]
  | level, character :: rest =>
      let pieces := brackets.piecesFrom separator (level + brackets.weight character) rest
      if character == separator && level == 0 then [] :: pieces
      else extendFirst character pieces

/-- The depths at which the separators of a text stand. -/
def depths (brackets : Brackets) (separator : Char) (text : List Char) : List Int :=
  brackets.depthsFrom separator 0 text

/-- The pieces of a text between its outer separators. -/
def pieces (brackets : Brackets) (separator : Char) (text : List Char) : List (List Char) :=
  brackets.piecesFrom separator 0 text

variable {brackets : Brackets} {separator : Char} {level : Int} {text before rest : List Char}

/-! ## Depth -/

@[simp] theorem depth_nil : brackets.depth [] = 0 := rfl

@[simp] theorem depth_cons (character : Char) (text : List Char) :
    brackets.depth (character :: text) = brackets.weight character + brackets.depth text := rfl

@[simp] theorem depth_append (before rest : List Char) :
    brackets.depth (before ++ rest) = brackets.depth before + brackets.depth rest := by
  induction before with
  | nil => simp
  | cons first before ih => simp [ih, Int.add_assoc]

@[simp] theorem closes_nil {expected : List Char} :
    brackets.closes expected [] ↔ expected = [] := by
  simp [closes]

@[simp] theorem closes_cons {expected : List Char} {character : Char} :
    brackets.closes expected (character :: text) ↔
      ∃ left, brackets.expecting? expected character = some left ∧ brackets.closes left text := by
  rw [closes]
  cases brackets.expecting? expected character <;> simp

theorem length_expecting {expected left : List Char} {character : Char}
    (expects : brackets.expecting? expected character = some left) :
    (left.length : Int) = expected.length + brackets.weight character := by
  unfold expecting? at expects
  unfold weight
  cases opens : brackets.closing? character with
  | some closing =>
      simp only [opens, Option.some.injEq] at expects
      simp [← expects]
  | none =>
      simp only [opens] at expects
      cases closes : brackets.isClosing character with
      | false =>
          simp only [closes, Bool.not_false, if_true, Option.some.injEq] at expects
          simp [expects]
      | true =>
          simp only [closes, Bool.not_true, Bool.false_eq_true, if_false] at expects
          split at expects
          · next isNext =>
            obtain ⟨outer, rfl⟩ := List.head?_eq_some_iff.1 isNext
            simp only [List.tail_cons, Option.some.injEq] at expects
            simp only [expects, List.length_cons, Option.isSome_none, Bool.false_eq_true,
              if_false, if_true]
            omega
          · cases expects

/-- A text that closes the expected brackets takes the depth down by as many. -/
theorem depth_of_closes {expected : List Char} (closed : brackets.closes expected text) :
    expected.length + brackets.depth text = 0 := by
  induction text generalizing expected with
  | nil => simp [closes_nil.1 closed]
  | cons first text ih =>
      obtain ⟨left, expects, closedLater⟩ := closes_cons.1 closed
      have later := ih closedLater
      have now := length_expecting expects
      rw [depth_cons]
      omega

/-- Up to any place, a text closes no more brackets than are open. -/
theorem depth_nonneg_of_closes {expected : List Char}
    (closed : brackets.closes expected (before ++ rest)) :
    0 ≤ expected.length + brackets.depth before := by
  induction before generalizing expected with
  | nil => simp
  | cons first before ih =>
      rw [List.cons_append] at closed
      obtain ⟨left, expects, closedLater⟩ := closes_cons.1 closed
      have later := ih closedLater
      have now := length_expecting expects
      rw [depth_cons]
      omega

theorem Nested.depth_eq_zero (nested : brackets.Nested text) : brackets.depth text = 0 := by
  simpa using depth_of_closes nested

theorem Nested.depth_nonneg (nested : brackets.Nested (before ++ rest)) :
    0 ≤ brackets.depth before := by
  simpa using depth_nonneg_of_closes nested

theorem closes_cons_of_plain {expected : List Char} {character : Char}
    (noBracket : brackets.closing? character = none)
    (notClosing : brackets.isClosing character = false) :
    brackets.closes expected (character :: text) ↔ brackets.closes expected text := by
  have expects : brackets.expecting? expected character = some expected := by
    simp [expecting?, noBracket, notClosing]
  simp [expects]

/-- Characters that are no brackets leave the expected brackets as they are. -/
theorem closes_append_of_plain {expected : List Char} (before : List Char)
    (plain : ∀ character ∈ before,
      brackets.closing? character = none ∧ brackets.isClosing character = false) :
    brackets.closes expected (before ++ text) ↔ brackets.closes expected text := by
  induction before with
  | nil => rfl
  | cons first before ih =>
      rw [List.forall_mem_cons] at plain
      rw [List.cons_append, closes_cons_of_plain plain.1.1 plain.1.2, ih plain.2]

/-! ## Separators -/

/-- The depth at which a separator stands is the depth of the text before it. -/
theorem mem_depthsFrom {found : Int} :
    found ∈ brackets.depthsFrom separator level text ↔
      ∃ before after, text = before ++ separator :: after ∧
        found = level + brackets.depth before := by
  induction text generalizing level with
  | nil => simp [depthsFrom]
  | cons first text ih =>
      have later : found ∈ brackets.depthsFrom separator (level + brackets.weight first) text ↔
          ∃ before after, first :: text = (first :: before) ++ separator :: after ∧
            found = level + brackets.depth (first :: before) := by
        simp [ih, Int.add_assoc]
      rw [depthsFrom]
      split
      · next same =>
        rw [beq_iff_eq] at same
        rw [List.mem_cons, later]
        constructor
        · rintro (rfl | ⟨before, after, whole, depth_eq⟩)
          · exact ⟨[], text, by simp [same], by simp⟩
          · exact ⟨first :: before, after, whole, depth_eq⟩
        · rintro ⟨_ | ⟨head, before⟩, after, whole, depth_eq⟩
          · left
            simpa using depth_eq
          · right
            obtain rfl : first = head := (List.cons.inj whole).1
            exact ⟨before, after, whole, depth_eq⟩
      · next different =>
        rw [beq_iff_eq] at different
        rw [later]
        constructor
        · rintro ⟨before, after, whole, depth_eq⟩
          exact ⟨first :: before, after, whole, depth_eq⟩
        · rintro ⟨_ | ⟨head, before⟩, after, whole, depth_eq⟩
          · exact absurd (List.cons.inj whole).1 different
          · obtain rfl : first = head := (List.cons.inj whole).1
            exact ⟨before, after, whole, depth_eq⟩

theorem depthsFrom_eq_nil_iff :
    brackets.depthsFrom separator level text = [] ↔ separator ∉ text := by
  rw [List.eq_nil_iff_forall_not_mem]
  simp only [mem_depthsFrom]
  constructor
  · intro none isIn
    obtain ⟨before, after, whole⟩ := List.append_of_mem isIn
    exact none _ ⟨before, after, whole, rfl⟩
  · rintro absent found ⟨before, after, rfl, -⟩
    exact absent (by simp)

/-! ## Pieces -/

theorem piecesFrom_ne_nil : brackets.piecesFrom separator level text ≠ [] := by
  cases text with
  | nil => simp [piecesFrom]
  | cons first text =>
      rw [piecesFrom]
      split
      · simp
      · unfold extendFirst
        split <;> simp

/-- Joining the pieces with the separator gives the text back. -/
theorem join_piecesFrom (brackets : Brackets) (separator : Char) (level : Int) (text : List Char) :
    join [separator] (brackets.piecesFrom separator level text) = text := by
  induction text generalizing level with
  | nil => simp [piecesFrom, join]
  | cons first text ih =>
      rw [piecesFrom]
      split
      · next cut =>
        rw [Bool.and_eq_true, beq_iff_eq] at cut
        rw [join_nil_cons _ piecesFrom_ne_nil, ih, cut.1]
        rfl
      · rw [join_extendFirst _ _ piecesFrom_ne_nil, ih]

theorem length_extendFirst (character : Char) {pieces : List (List Char)} (nonempty : pieces ≠ []) :
    (extendFirst character pieces).length = pieces.length := by
  cases pieces with
  | nil => exact absurd rfl nonempty
  | cons piece pieces => rfl

/-- There is one piece more than there are outer separators. -/
theorem length_piecesFrom (brackets : Brackets) (separator : Char) (level : Int) (text : List Char) :
    (brackets.piecesFrom separator level text).length =
      (brackets.depthsFrom separator level text).count 0 + 1 := by
  induction text generalizing level with
  | nil => simp [piecesFrom, depthsFrom]
  | cons first text ih =>
      rw [piecesFrom, depthsFrom]
      by_cases same : first = separator
      · by_cases outer : level = 0
        · simp [same, outer, ih]
        · simp [same, outer, length_extendFirst _ piecesFrom_ne_nil, ih]
      · simp [same, length_extendFirst _ piecesFrom_ne_nil, ih]

theorem length_splitChar (brackets : Brackets) (separator : Char) (level : Int) (text : List Char) :
    (splitChar separator text).length =
      (brackets.depthsFrom separator level text).length + 1 := by
  induction text generalizing level with
  | nil => simp [splitChar, depthsFrom]
  | cons first text ih =>
      rw [splitChar, depthsFrom]
      by_cases same : first = separator
      · simpa [same] using ih _
      · simpa [same, length_extendFirst _ (splitChar_ne_nil separator text)] using ih _

/-- A text is cut at all of its separators just if all of them are outer. -/
theorem piecesFrom_eq_splitChar_iff :
    brackets.piecesFrom separator level text = splitChar separator text ↔
      ∀ found ∈ brackets.depthsFrom separator level text, found = 0 := by
  constructor
  · intro same
    have count := congrArg List.length same
    rw [length_piecesFrom, length_splitChar brackets separator level] at count
    have all := List.count_eq_length.1 (Nat.succ.inj count)
    intro found isFound
    exact (all found isFound).symm
  · induction text generalizing level with
    | nil =>
        intro _
        rfl
    | cons first text ih =>
        intro outer
        rw [depthsFrom] at outer
        rw [piecesFrom, splitChar]
        split at outer
        · next same =>
          rw [List.forall_mem_cons] at outer
          simp [same, outer.1, ih (by simpa [outer.1] using outer.2)]
        · next different => simp [different, ih outer]

/-- A text is left whole just if none of its separators is outer. -/
theorem piecesFrom_eq_singleton_iff :
    brackets.piecesFrom separator level text = [text] ↔
      0 ∉ brackets.depthsFrom separator level text := by
  rw [← List.count_eq_zero]
  constructor
  · intro whole
    have count := length_piecesFrom brackets separator level text
    rw [whole, List.length_singleton] at count
    omega
  · intro none
    have single : (brackets.piecesFrom separator level text).length = 1 := by
      rw [length_piecesFrom, none]
    obtain ⟨piece, whole⟩ := List.length_eq_one_iff.1 single
    have joined := join_piecesFrom brackets separator level text
    rw [whole] at joined ⊢
    simpa [join] using joined

theorem join_pieces : join [separator] (brackets.pieces separator text) = text :=
  join_piecesFrom _ _ _ _

theorem pieces_eq_splitChar_iff :
    brackets.pieces separator text = splitChar separator text ↔
      ∀ found ∈ brackets.depths separator text, found = 0 :=
  piecesFrom_eq_splitChar_iff

theorem pieces_eq_singleton_iff :
    brackets.pieces separator text = [text] ↔ 0 ∉ brackets.depths separator text :=
  piecesFrom_eq_singleton_iff

/-- The first piece closes what is expected to be closed, and the later ones are nested. -/
theorem closes_piecesFrom {expected : List Char} (noBracket : brackets.closing? separator = none)
    (notClosing : brackets.isClosing separator = false)
    (closed : brackets.closes expected text) :
    ∃ first later, brackets.piecesFrom separator expected.length text = first :: later ∧
      brackets.closes expected first ∧ ∀ piece ∈ later, brackets.Nested piece := by
  induction text generalizing expected with
  | nil => exact ⟨[], [], rfl, closed, by simp⟩
  | cons head text ih =>
      obtain ⟨left, expects, closedLater⟩ := closes_cons.1 closed
      obtain ⟨first, later, cut, closedFirst, nested⟩ := ih closedLater
      rw [length_expecting expects] at cut
      rw [piecesFrom, cut]
      split
      · next outer =>
        rw [Bool.and_eq_true, beq_iff_eq, beq_iff_eq] at outer
        obtain ⟨rfl, nothing⟩ := outer
        obtain rfl : expected = [] := by simpa using nothing
        have same : left = [] := by simpa [expecting?, noBracket, notClosing] using expects.symm
        rw [same] at closedFirst
        refine ⟨[], first :: later, rfl, closes_nil.2 rfl, ?_⟩
        rw [List.forall_mem_cons]
        exact ⟨closedFirst, nested⟩
      · refine ⟨head :: first, later, rfl, ?_, nested⟩
        rw [closes_cons]
        exact ⟨left, expects, closedFirst⟩

/-- The pieces of a nested text are nested. -/
theorem Nested.of_mem_pieces (noBracket : brackets.closing? separator = none)
    (notClosing : brackets.isClosing separator = false) (nested : brackets.Nested text) :
    ∀ piece ∈ brackets.pieces separator text, brackets.Nested piece := by
  obtain ⟨first, later, cut, nestedFirst, nestedLater⟩ :=
    closes_piecesFrom noBracket notClosing nested
  intro piece isPiece
  have isPieceToo : piece ∈ first :: later := cut ▸ isPiece
  rcases List.mem_cons.1 isPieceToo with rfl | isLater
  · exact nestedFirst
  · exact nestedLater piece isLater

end Brackets

end DocHarvest.Text
