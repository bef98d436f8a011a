import DocHarvest.Fault
import DocHarvest.Report.Emoji

/-!
# Markup

Printed text is marked up by tags in square brackets, which style the text up to the tag that
closes them and leave no trace in plain output. A tag starts with a small letter or one of `#`, `/`
and `@`. Backslashes before a tag are halved, and an odd one makes the tag plain text; before any
other opening bracket one backslash is dropped. Emoji codes are replaced piece by piece, so a tag
ends a code. Controls that a terminal would act on are dropped.
-/

namespace DocHarvest.Report

/-- A part of marked-up text. -/
inductive Markup
  | text (content : List Char)
  | tag (label : List Char)
deriving DecidableEq, Repr

namespace Markup

/-- Whether a tag may start with a character. -/
def startsTag (character : Char) : Bool :=
  character.isLower || character == '#' || character == '/' || character == '@'

/-- The tag that the text after an opening bracket starts with, and the text after it. -/
def tag? (text : List Char) : Option (List Char × List Char) :=
  if text.head?.any startsTag && text.contains ']' then
    some (text.takeWhile (· != ']'), (text.dropWhile (· != ']')).drop 1)
  else none

/-- The plain text before a tag, with backslashes halved, and the tag or what stands for it. -/
def escaped (before label : List Char) : List Markup :=
  let start := Text.dropEndWhile (· == '\\') before
  let count := before.length - start.length
  [.text start, .text (List.replicate (count / 2) '\\'),
    if count % 2 == 1 then .text ('[' :: label ++ [']']) else .tag label]

/-- The parts of a text, given the plain text so far and the pieces that follow brackets. -/
def partsAfter (before : List Char) : List (List Char) → List Markup
  | [] => [.text before]
  | piece :: rest =>
      match tag? piece with
      | some (label, after) => escaped before label ++ partsAfter after rest
      | none => partsAfter (before ++ '[' :: piece) rest

/-- The parts of marked-up text. -/
def parts (text : List Char) : List Markup :=
  match Text.splitChar '[' text with
  | [] => []
  | start :: pieces => partsAfter start pieces

/-- The name of a tag, which ends at an equals sign. -/
def tagName (label : List Char) : List Char :=
  Text.lowerAfter [] (Text.trim (label.takeWhile (· != '=')))

/-- The names of the open tags after a tag, the innermost first. -/
def open? (names : List (List Char)) (label : List Char) : Option (List (List Char)) :=
  match label with
  | '/' :: closed =>
      let name := tagName closed
      if name.isEmpty then names.tail?
      else if names.contains name then some (names.erase name)
      else none
  | _ => some (tagName label :: names)

/-- The plain text of a part of the text. -/
def plainText (content : List Char) : List Char :=
  withEmoji (Text.replaceAll ['\\', '['] ['['] content)

/-- The plain text of parts inside open tags. -/
def plainParts (names : List (List Char)) : List Markup → Except Fault (List Char)
  | [] => .ok []
  | .text content :: rest => do return plainText content ++ (← plainParts names rest)
  | .tag label :: rest =>
      match open? names label with
      | some names => plainParts names rest
      | none => .error (.unopenedTag (String.ofList label))

end Markup

/-- The control characters that a terminal would act on, other than tab and newline. -/
def terminalControls : List Nat := [7, 8, 11, 12, 13]

/-- The plain text that marked-up text shows. -/
def plain (text : List Char) : Except Fault (List Char) := do
  let shown ← Markup.plainParts [] (Markup.parts text)
  return shown.filter fun character => !terminalControls.contains character.toNat

end DocHarvest.Report
