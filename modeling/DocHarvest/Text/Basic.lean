import DocHarvest.Text.Blank

/-!
# Cutting and joining text

Operations on texts as lists of characters. All of them read from the left and treat occurrences
of a pattern as non-overlapping, so every character is looked at once. The lemmas say how pieces
and separators make up the text that was cut.
-/

namespace DocHarvest.Text

/-- Drops whitespace at the start. -/
def trimStart (text : List Char) : List Char :=
  text.dropWhile isBlank

/-- Drops the characters at the end that satisfy a predicate. -/
def dropEndWhile (unwanted : Char → Bool) (text : List Char) : List Char :=
  (text.reverse.dropWhile unwanted).reverse

/-- Drops whitespace at both ends. -/
def trim (text : List Char) : List Char :=
  dropEndWhile isBlank (trimStart text)

/-- Drops a leading character if it is the given one. -/
def dropFirst (unwanted : Char) : List Char → List Char
  | [] => []
  | character :: rest => if character == unwanted then rest else character :: rest

/-- Drops a final character if it is the given one. -/
def dropLast (unwanted : Char) (text : List Char) : List Char :=
  (dropFirst unwanted text.reverse).reverse

/-- Puts a character in front of the first piece. -/
def extendFirst (character : Char) : List (List Char) → List (List Char)
  | [] => [[character]]
  | piece :: pieces => (character :: piece) :: pieces

/-- The pieces of a text between the occurrences of a character. -/
def splitChar (separator : Char) : List Char → List (List Char)
  | [] => [[]]
  | character :: rest =>
      if character == separator then [] :: splitChar separator rest
      else extendFirst character (splitChar separator rest)

/-- The pieces of a text between the occurrences of a pattern, after `skip` characters. -/
def splitAfter (pattern : List Char) : Nat → List Char → List (List Char)
  | _, [] => [[]]
  | skip + 1, _ :: rest => splitAfter pattern skip rest
  | 0, character :: rest =>
      if pattern.isPrefixOf (character :: rest) then
        [] :: splitAfter pattern (pattern.length - 1) rest
      else extendFirst character (splitAfter pattern 0 rest)

/-- The pieces of a text between the occurrences of a pattern. -/
def split (pattern text : List Char) : List (List Char) :=
  splitAfter pattern 0 text

/-- Pieces joined by a separator. -/
def join (separator : List Char) (pieces : List (List Char)) : List Char :=
  separator.intercalate pieces

/-- A text with every occurrence of a pattern replaced. -/
def replaceAll (pattern replacement text : List Char) : List Char :=
  join replacement (split pattern text)

/-- A text with the first occurrence of a pattern replaced. -/
def replaceFirst (pattern replacement : List Char) : List Char → List Char
  | [] => []
  | character :: rest =>
      if pattern.isPrefixOf (character :: rest) then
        replacement ++ (character :: rest).drop pattern.length
      else character :: replaceFirst pattern replacement rest

/-- The lines of a text, without the newlines between them. -/
def lines (text : List Char) : List (List Char) :=
  splitChar '\n' text

/-- Lines joined by newlines. -/
def unlines (pieces : List (List Char)) : List Char :=
  join ['\n'] pieces

/-- Applies a change to every line of a text. -/
def mapLines (change : List Char → List Char) (text : List Char) : List Char :=
  unlines ((lines text).map change)

/-- Whether a character is a space or a tab. -/
def isGap (character : Char) : Bool :=
  character == ' ' || character == '\t'

/-- Strings joined by a separator. -/
def joinStrings (separator : String) (pieces : List String) : String :=
  String.ofList (join separator.toList (pieces.map String.toList))

/-- The text of an optional string, where an absent one is written `None`. -/
def orNone (text : Option String) : String :=
  text.getD "None"

theorem splitChar_ne_nil (separator : Char) (text : List Char) : splitChar separator text ≠ [] := by
  cases text with
  | nil => simp [splitChar]
  | cons character rest =>
      simp only [splitChar]
      split
      · simp
      · unfold extendFirst
        split <;> simp

/-- Joining the pieces with the separator gives the text back. -/
theorem join_splitChar (separator : Char) (text : List Char) :
    join [separator] (splitChar separator text) = text := by
  induction text with
  | nil => simp [splitChar, join, List.intercalate]
  | cons character rest ih =>
      simp only [splitChar]
      have nonempty := splitChar_ne_nil separator rest
      obtain ⟨piece, pieces, pieces_eq⟩ := List.exists_cons_of_ne_nil nonempty
      rw [pieces_eq] at ih ⊢
      split
      · next same =>
        have : character = separator := by simpa using same
        subst this
        simp only [join, List.intercalate, List.intersperse] at ih ⊢
        cases pieces <;> simp_all
      · simp only [extendFirst]
        cases pieces with
        | nil => simp_all [join, List.intercalate]
        | cons next others => simp_all [join, List.intercalate, List.intersperse]

end DocHarvest.Text
