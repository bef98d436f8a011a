import DocHarvest.Number.Literal
import DocHarvest.Value.Basic

/-!
# Values from JSON text

A reader for JSON on lists of characters. Each reader takes its part off the front of the text and
returns what is left. Besides the standard forms, `NaN`, `Infinity` and `-Infinity` are numbers; of
members with the same name the last value counts; integers are exact, up to the digit limit that
`Numeral` sets. The fuel of the nested readers bounds nesting and length together; `ofJson?` gives
them twice the length of the text, which no text can use up.
-/

namespace DocHarvest.Value

/-- Whitespace between the tokens of a JSON text. -/
def isJsonBlank (character : Char) : Bool :=
  character == ' ' || character == '\t' || character == '\n' || character == '\r'

/-- Drops JSON whitespace in front. -/
def skipBlanks (input : List Char) : List Char :=
  input.dropWhile isJsonBlank

/-- The number that four hexadecimal digits denote. -/
def hexUnit? (first second third fourth : Char) : Option Nat :=
  Numeral.digits? 16 [first, second, third, fourth]

/-- The character that a one-letter escape stands for. -/
def simpleEscape? : Char → Option Char
  | '"' => some '"'
  | '\\' => some '\\'
  | '/' => some '/'
  | 'b' => some (Char.ofNat 0x08)
  | 'f' => some (Char.ofNat 0x0c)
  | 'n' => some '\n'
  | 'r' => some '\r'
  | 't' => some '\t'
  | _ => none

/-- Reads the rest of a string up to its closing quote, as code points and UTF-16 units. -/
def stringUnits? : List Char → Option (List Nat × List Char)
  | [] => none
  | '"' :: rest => some ([], rest)
  | '\\' :: 'u' :: first :: second :: third :: fourth :: rest =>
      match hexUnit? first second third fourth, stringUnits? rest with
      | some unit, some (units, left) => some (unit :: units, left)
      | _, _ => none
  | '\\' :: mark :: rest =>
      match simpleEscape? mark, stringUnits? rest with
      | some character, some (units, left) => some (character.toNat :: units, left)
      | _, _ => none
  | character :: rest =>
      if character.toNat < 0x20 || character == '\\' then none
      else (stringUnits? rest).map fun (units, left) => (character.toNat :: units, left)

/-- Whether a unit is the first of a surrogate pair. -/
def isHighSurrogate (unit : Nat) : Bool := 0xd800 ≤ unit && unit < 0xdc00

/-- Whether a unit is the second of a surrogate pair. -/
def isLowSurrogate (unit : Nat) : Bool := 0xdc00 ≤ unit && unit < 0xe000

/-- Characters of units: a surrogate pair is one character and a lone surrogate is U+FFFD. -/
def charsOfUnits : List Nat → List Char
  | [] => []
  | high :: low :: rest =>
      if isHighSurrogate high && isLowSurrogate low then
        Char.ofNat (0x10000 + (high - 0xd800) * 0x400 + (low - 0xdc00)) :: charsOfUnits rest
      else if isHighSurrogate high || isLowSurrogate high then
        Char.ofNat 0xfffd :: charsOfUnits (low :: rest)
      else Char.ofNat high :: charsOfUnits (low :: rest)
  | [unit] =>
      if isHighSurrogate unit || isLowSurrogate unit then [Char.ofNat 0xfffd]
      else [Char.ofNat unit]

/-- Reads the rest of a string up to its closing quote. -/
def string? (input : List Char) : Option (String × List Char) :=
  (stringUnits? input).map fun (units, left) => (String.ofList (charsOfUnits units), left)

/-- Takes a point and the digits after it off a text; a point without digits stays. -/
def fractionPart : List Char → List Char × List Char
  | '.' :: rest =>
      let digits := rest.takeWhile Char.isDigit
      if digits.isEmpty then ([], '.' :: rest) else ('.' :: digits, rest.dropWhile Char.isDigit)
  | input => ([], input)

/-- Takes an exponent off a text; a mark without digits stays. -/
def exponentPart : List Char → List Char × List Char
  | [] => ([], [])
  | mark :: rest =>
      let sign := rest.takeWhile fun character => character == '+' || character == '-'
      let afterSign := rest.drop sign.length
      let digits := afterSign.takeWhile Char.isDigit
      if (mark == 'e' || mark == 'E') && sign.length ≤ 1 && !digits.isEmpty then
        (mark :: sign ++ digits, afterSign.dropWhile Char.isDigit)
      else ([], mark :: rest)

/-- Takes the digits before the point off a text: a single zero, or digits without one in front. -/
def wholePart? : List Char → Option (List Char × List Char)
  | [] => none
  | '0' :: rest => some (['0'], rest)
  | character :: rest =>
      if character.isDigit then
        some (character :: rest.takeWhile Char.isDigit, rest.dropWhile Char.isDigit)
      else none

/-- Reads a number, whose minus sign has been taken off. -/
def number? (negative : Bool) (input : List Char) : Option (Value × List Char) :=
  match wholePart? input with
  | none => none
  | some (whole, afterWhole) =>
      let (fraction, afterFraction) := fractionPart afterWhole
      let (exponent, left) := exponentPart afterFraction
      if fraction.isEmpty && exponent.isEmpty then
        (Numeral.decimal? whole).map fun value => (.integer (Numeral.signed negative value), left)
      else
        (Numeral.decimalReal? negative (whole ++ fraction ++ exponent)).map fun value =>
          (.real value, left)

/-- The names that stand for values. -/
def names : List (String × Value) :=
  [("null", .null), ("true", .boolean true), ("false", .boolean false), ("NaN", .real .nan),
    ("Infinity", .real (.infinite false)), ("-Infinity", .real (.infinite true))]

/-- Reads a name that stands for a value. -/
def name? (input : List Char) : Option (Value × List Char) :=
  names.findSome? fun (name, value) =>
    (name.toList.isPrefixOf? input).map fun left => (value, left)

/-- Reads a value that is neither a list nor an object. -/
def scalar? (input : List Char) : Option (Value × List Char) :=
  match name? input, input with
  | some read, _ => some read
  | none, '"' :: rest => (string? rest).map fun (content, left) => (.text content, left)
  | none, '-' :: rest => number? true rest
  | none, _ => number? false input

mutual

/-- Reads a value from the front of a text. -/
def value? : Nat → List Char → Option (Value × List Char)
  | 0, _ => none
  | fuel + 1, '[' :: rest =>
      match skipBlanks rest with
      | ']' :: left => some (.list [], left)
      | inside => (items? fuel inside).map fun (items, left) => (.list items, left)
  | fuel + 1, '\x7b' :: rest =>
      match skipBlanks rest with
      | '\x7d' :: left => some (.object [], left)
      | inside => (members? fuel [] inside).map fun (members, left) => (.object members, left)
  | _ + 1, input => scalar? input

/-- Reads the items of a list up to the closing bracket. -/
def items? : Nat → List Char → Option (List Value × List Char)
  | 0, _ => none
  | fuel + 1, input =>
      match value? fuel input with
      | none => none
      | some (item, afterItem) =>
          match skipBlanks afterItem with
          | ']' :: left => some ([item], left)
          | ',' :: rest =>
              (items? fuel (skipBlanks rest)).map fun (items, left) => (item :: items, left)
          | _ => none

/-- Reads the members of an object up to the closing brace, after those already known. -/
def members? : Nat → List (String × Value) → List Char →
    Option (List (String × Value) × List Char)
  | fuel + 1, known, '"' :: rest =>
      match string? rest with
      | none => none
      | some (name, afterName) =>
          match skipBlanks afterName with
          | ':' :: afterColon =>
              match value? fuel (skipBlanks afterColon) with
              | none => none
              | some (value, afterValue) =>
                  let members := setMember name value known
                  match skipBlanks afterValue with
                  | '\x7d' :: left => some (members, left)
                  | ',' :: next => members? fuel members (skipBlanks next)
                  | _ => none
          | _ => none
  | _, _, _ => none

end

/-- The value that a JSON text denotes. -/
def ofJson? (input : String) : Option Value :=
  let characters := input.toList
  match value? (2 * characters.length + 1) (skipBlanks characters) with
  | some (value, left) => if (skipBlanks left).isEmpty then some value else none
  | none => none

end DocHarvest.Value
