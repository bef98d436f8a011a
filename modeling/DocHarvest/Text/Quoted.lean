import DocHarvest.Text.Printable

/-!
# Quoted text

Text in quotes, as shown where a literal has no source text of its own. Single quotes are used
unless the text holds a single quote and no double quote. The backslash, the quote in use and the
characters that cannot be printed are escaped.
-/

namespace DocHarvest.Text.Quoted

/-- A number in lower-case hexadecimal, padded with zeros to a width. -/
def hexadecimal (width code : Nat) : List Char :=
  let digits := Nat.toDigits 16 code
  List.replicate (width - digits.length) '0' ++ digits

/-- The escape of a character that cannot be printed, by the size of its code point. -/
def escapeCode (code : Nat) : List Char :=
  if code < 0x100 then ['\\', 'x'] ++ hexadecimal 2 code
  else if code < 0x10000 then ['\\', 'u'] ++ hexadecimal 4 code
  else ['\\', 'U'] ++ hexadecimal 8 code

/-- A character between quotes of the given kind. -/
def escape (quote character : Char) : List Char :=
  if character == quote || character == '\\' then ['\\', character]
  else if character == '\n' then ['\\', 'n']
  else if character == '\r' then ['\\', 'r']
  else if character == '\t' then ['\\', 't']
  else if isPrintable character then [character]
  else escapeCode character.toNat

/-- The quote that a text is written in. -/
def quoteFor (text : List Char) : Char :=
  if text.contains '\'' && !text.contains '"' then '"' else '\''

/-- A text in quotes. -/
def quoted (text : String) : String :=
  let characters := text.toList
  let quote := quoteFor characters
  String.ofList (quote :: characters.flatMap (escape quote) ++ [quote])

end DocHarvest.Text.Quoted
