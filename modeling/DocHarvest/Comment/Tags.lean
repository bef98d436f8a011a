import DocHarvest.Comment.Basic
import DocHarvest.Text.Basic
import DocHarvest.Text.Word

/-!
# Tags of a documentation comment

A comment is first freed of its margin: the indentation of every line, one star, and one blank
after the star. A text that does not start with a tag gets the tag `@desc` in front. Then every line
that starts with `@` and a word begins a new tag, except inside a code fence, where `@` is shielded
until the text has been cut.

The cut is made with marks inside the text: `cutMark` on both sides of a tag name and `emptyMark`
as the text of a tag that has none. A comment that contains a mark itself is cut there as well.
-/

namespace DocHarvest.Comment

/-- The mark at which the text is cut. -/
def cutMark : List Char := ['\\', 'Z']

/-- The mark that stands for the text of a bare tag. -/
def emptyMark : List Char := "\\TRUE".toList

/-- The mark that stands for `@` inside a code fence. -/
def shieldMark : List Char := "\\ESCAPED_AT\\".toList

/-- The mark that opens and closes a code fence. -/
def fenceMark : List Char := "```".toList

/-- Drops one leading star and one blank after it. -/
def dropStar : List Char → List Char
  | '*' :: next :: rest => if Text.isGap next then rest else next :: rest
  | '*' :: [] => []
  | line => line

/-- Drops a final space or tab. -/
def dropFinalGap (text : List Char) : List Char :=
  match text.reverse with
  | last :: before => if Text.isGap last then before.reverse else text
  | [] => []

/-- The text of a comment without line indentation and without the stars of its margin. -/
def dropMargin (text : List Char) : List Char :=
  let unified := Text.replaceAll ['\r', '\n'] ['\n'] text
  let outdented := Text.mapLines (·.dropWhile Text.isGap) unified
  Text.mapLines dropStar (dropFinalGap (dropStar outdented))

/-- A text that starts with a tag; untagged text is a description. -/
def withTag (text : List Char) : List Char :=
  if ['@'].isPrefixOf text then text else "@desc ".toList ++ text

/-- Shields every `@` of a text. -/
def shield (text : List Char) : List Char :=
  Text.replaceAll ['@'] shieldMark text

/-- Shields the pieces between an opening and a closing fence mark. -/
def shieldFenced : List (List Char) → List (List Char)
  | outside :: inside :: next :: rest => outside :: shield inside :: shieldFenced (next :: rest)
  | pieces => pieces

/-- Shields every `@` inside the code fences of a text. -/
def shieldFences (text : List Char) : List Char :=
  Text.join fenceMark (shieldFenced (Text.split fenceMark text))

/-- The tag at the start of a line, after blanks, and what follows it. -/
def lineTag? (line : List Char) : Option (List Char × List Char) :=
  match line.dropWhile Text.isGap with
  | '@' :: rest =>
      let word := rest.takeWhile Text.isWord
      if word.isEmpty then none else some ('@' :: word, rest.dropWhile Text.isWord)
  | _ => none

/-- Gives a line that holds nothing but a tag the mark of empty text. -/
def markBare (line : List Char) : List Char :=
  match lineTag? line with
  | some (tag, []) => tag ++ ' ' :: emptyMark
  | _ => line

/-- Puts cut marks around the tag at the start of a line if a blank follows it. -/
def markCut (line : List Char) : List Char :=
  match lineTag? line with
  | some (tag, next :: rest) =>
      if Text.isGap next then cutMark ++ tag ++ cutMark ++ rest else line
  | _ => line

/-- The text of a tag without the marks and without the newlines around it. -/
def cleanValue (text : List Char) : List Char :=
  let unmarked := Text.replaceAll shieldMark ['@'] (Text.replaceFirst emptyMark [] text)
  Text.dropEndWhile (· == '\n') (Text.dropFirst '\n' unmarked)

/-- A tag of its name and its text as it was cut. -/
def tagOf (name value : List Char) : Tag :=
  ⟨String.ofList name, String.ofList (cleanValue value)⟩

/-- Pairs the names among the pieces of a text with the pieces that follow them. -/
def collect : List (List Char) → List Tag
  | [] => []
  | [piece] => if ['@'].isPrefixOf piece then [tagOf piece []] else []
  | piece :: next :: rest =>
      if ['@'].isPrefixOf piece then
        if ['@'].isPrefixOf next then tagOf piece [] :: collect (next :: rest)
        else tagOf piece next :: collect rest
      else collect (next :: rest)

/-- The pieces of a text whose margin has been dropped, names and texts of the tags in turn. -/
def pieces (text : List Char) : List (List Char) :=
  let shielded := shieldFences (Text.dropEndWhile Text.isGap (withTag text))
  Text.split cutMark (Text.mapLines markCut (Text.mapLines markBare shielded))

/-- The tags of a comment, in order. -/
def tags (comment : Comment) : List Tag :=
  collect (pieces (dropMargin comment.text.toList))

/-- The tags of the last of some comments. -/
def lastTags (comments : List Comment) : List Tag :=
  match comments.getLast? with
  | some comment => comment.tags
  | none => []

/-- The documentation comments among comments, or the stand-in when there are none. -/
def docComments (comments : List Comment) : List Comment :=
  match comments.filter isDoc with
  | [] => [undocumented]
  | found => found

/-- The tags of the last documentation comment among comments. -/
def docTags (comments : List Comment) : List Tag :=
  lastTags (comments.filter isDoc)

end DocHarvest.Comment
