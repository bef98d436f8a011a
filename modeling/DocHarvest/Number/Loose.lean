import DocHarvest.Number.Literal

/-!
# Integers in loose form

The integer that a text given in place of a number stands for. Margins and a sign may surround the
digits, zeros may stand in front, a point with zeros may follow, and single underscores may stand
between digits. What is left has to be an integer without zeros in front, of no more characters
than are read.
-/

namespace DocHarvest.Numeral

/-- Whether a character is a digit from one to nine. -/
def isLeadingDigit (character : Char) : Bool :=
  character.isDigit && character != '0'

/-- Whether a character can stand among the zeros in front of a number. -/
def isFiller (character : Char) : Bool :=
  character == '0' || character == '_'

/--
Drops the zeros in front of a number together with the underscores among them. The last of them
stays if nothing or a point follows; otherwise a digit or a minus sign has to follow.
-/
def dropZeros : List Char → Option (List Char)
  | [] => none
  | first :: rest =>
      if first == '0' then
        let last := ((rest.takeWhile isFiller).getLast?).getD first
        match rest.dropWhile isFiller with
        | [] => some [last]
        | next :: others =>
            if next == '.' then some (last :: next :: others)
            else if isLeadingDigit next || next == '-' then some (next :: others)
            else none
      else if isLeadingDigit first then some (first :: rest)
      else none

/-- Drops a point at the end that only zeros follow, and at least one. -/
def dropFraction (text : List Char) : List Char :=
  match text.reverse.dropWhile (· == '0') with
  | '.' :: whole => if text.getLast? == some '0' then whole.reverse else text
  | _ => text

/-- Whether two underscores stand side by side in a text. -/
def hasDoubledUnderscore : List Char → Bool
  | first :: second :: rest =>
      (first == '_' && second == '_') || hasDoubledUnderscore (second :: rest)
  | _ => false

/-- Drops underscores, if they are single and stand inside the text. -/
def dropUnderscores (text : List Char) : List Char :=
  if text.head? == some '_' || text.getLast? == some '_' || hasDoubledUnderscore text then text
  else text.filter (· != '_')

/-- Reads an integer without zeros in front and without a plus sign. -/
def strictInteger? (text : List Char) : Option Int :=
  let negative := text.head? == some '-'
  let digits := if negative then text.drop 1 else text
  if maxDecimalDigits < text.length || (digits.head? == some '0' && digits != ['0']) then none
  else if digits.all Char.isDigit then (digits? 10 digits).map (signed negative)
  else none

/-- Reads an integer in loose form. -/
def looseInteger? (text : List Char) : Option Int := do
  let (negative, body) := splitSign (Text.dropEndWhile isMargin (text.dropWhile isMargin))
  let number := dropUnderscores (dropFraction (← dropZeros body))
  strictInteger? (if negative then '-' :: number else number)

end DocHarvest.Numeral
