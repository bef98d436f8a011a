import DocHarvest.Number.Literal
import DocHarvest.Report.EmojiNames
import DocHarvest.Text.Case

/-!
# Emoji codes

A name between two colons stands for an emoji, as in `:fire:`. The name may end in `-emoji` or
`-text`, which asks for that form of the emoji. A code with an unknown name is left as it is, and
its closing colon opens no other code.
-/

namespace DocHarvest.Report

/-- An entry of the table of names: the name and the text that it stands for. -/
def emojiEntry? (entry : List Char) : Option (List Char × List Char) :=
  match Text.splitChar '=' entry with
  | [name, codes] =>
      ((Text.splitChar '-' codes).mapM (Numeral.digits? 16)).map fun codes =>
        (name, codes.map Char.ofNat)
  | _ => none

/-- The emoji by their names. -/
def emojis : List (List Char × List Char) :=
  emojiTable.flatMap fun entries => (Text.splitChar ' ' entries.toList).filterMap emojiEntry?

/-- The endings of names that ask for a form, with the character that selects it. -/
def emojiForms : List (List Char × Char) :=
  [("-emoji".toList, Char.ofNat 0xfe0f), ("-text".toList, Char.ofNat 0xfe0e)]

/-- A name without its ending, and the character that the ending asks for. -/
def splitForm (name : List Char) : List Char × List Char :=
  match emojiForms.find? fun form => form.1.isSuffixOf name with
  | some (ending, selector) => (name.take (name.length - ending.length), [selector])
  | none => (name, [])

/-- What the text between two colons stands for. -/
def emojiOf? (code : List Char) : Option (List Char) :=
  let (name, selector) := splitForm code
  (emojis.lookup (Text.lowerAfter [] name)).map (· ++ selector)

/-- Replaces the codes in pieces of a text, each of which follows a colon. -/
def replaceCodes : List (List Char) → List Char
  | [] => []
  | [last] => ':' :: last
  | code :: next :: rest =>
      if code.any Text.isBlank then ':' :: code ++ replaceCodes (next :: rest)
      else (emojiOf? code).getD (':' :: code ++ [':']) ++ next ++ replaceCodes rest

/-- A text with every emoji code replaced by its emoji. -/
def withEmoji (text : List Char) : List Char :=
  match Text.splitChar ':' text with
  | [] => []
  | start :: pieces => start ++ replaceCodes pieces

end DocHarvest.Report
