import DocHarvest.Value.Basic

/-!
# Values as JSON text

A printer for values with two layouts: on one line with `", "` and `": "`, and indented by two
spaces a level. Everything outside the printable ASCII characters is escaped by UTF-16 units, and
numbers that JSON has no form for are written by their usual names.
-/

namespace DocHarvest.Value

/-- Numbers in JSON text, with the long name of infinity. -/
def jsonNumberFormat : Binary64.NumberFormat :=
  { numberFormat with infinity := "Infinity", notANumber := "NaN" }

/-- The escape of a UTF-16 unit. -/
def unitEscape (unit : Nat) : List Char :=
  ['\\', 'u'] ++ Text.Quoted.hexadecimal 4 unit

/-- A character inside a JSON string. -/
def jsonEscape (character : Char) : List Char :=
  let code := character.toNat
  if character == '"' || character == '\\' then ['\\', character]
  else if character == '\n' then ['\\', 'n']
  else if character == '\r' then ['\\', 'r']
  else if character == '\t' then ['\\', 't']
  else if code == 0x0c then ['\\', 'f']
  else if code == 0x08 then ['\\', 'b']
  else if 0x20 ≤ code && code < 0x7f then [character]
  else if code < 0x10000 then unitEscape code
  else
    unitEscape (0xd800 + (code - 0x10000) / 0x400) ++
      unitEscape (0xdc00 + (code - 0x10000) % 0x400)

/-- A JSON string. -/
def jsonString (text : String) : String :=
  String.ofList ('"' :: text.toList.flatMap jsonEscape ++ ['"'])

mutual

/-- A value as JSON text on one line. -/
def toJson : Value → String
  | .null => "null"
  | .boolean truth => if truth then "true" else "false"
  | .integer number => integerText number
  | .real number => number.render jsonNumberFormat
  | .text content => jsonString content
  | .list items => "[" ++ Text.joinStrings ", " (jsonItems items) ++ "]"
  | .object members => "\x7b" ++ Text.joinStrings ", " (jsonMembers members) ++ "\x7d"

/-- The items of a list as JSON texts. -/
def jsonItems : List Value → List String
  | [] => []
  | item :: rest => item.toJson :: jsonItems rest

/-- The members of an object as JSON texts. -/
def jsonMembers : List (String × Value) → List String
  | [] => []
  | (name, value) :: rest => (jsonString name ++ ": " ++ value.toJson) :: jsonMembers rest

end

/-- A line break followed by the indentation of a level. -/
def newLine (level : Nat) : String :=
  String.ofList ('\n' :: List.replicate (2 * level) ' ')

/-- Parts between brackets, each on a line of its own one level further in. -/
def bracketed (openBracket closeBracket : String) (level : Nat) (parts : List String) : String :=
  if parts.isEmpty then openBracket ++ closeBracket
  else
    openBracket ++ newLine (level + 1) ++
      Text.joinStrings ("," ++ newLine (level + 1)) parts ++ newLine level ++ closeBracket

mutual

/-- A value as indented JSON text that starts at a level. -/
def toIndentedJson (level : Nat) : Value → String
  | .list items => bracketed "[" "]" level (indentedItems (level + 1) items)
  | .object members => bracketed "\x7b" "\x7d" level (indentedMembers (level + 1) members)
  | .null => "null"
  | .boolean truth => if truth then "true" else "false"
  | .integer number => integerText number
  | .real number => number.render jsonNumberFormat
  | .text content => jsonString content

/-- The items of a list as indented JSON texts. -/
def indentedItems (level : Nat) : List Value → List String
  | [] => []
  | item :: rest => item.toIndentedJson level :: indentedItems level rest

/-- The members of an object as indented JSON texts. -/
def indentedMembers (level : Nat) : List (String × Value) → List String
  | [] => []
  | (name, value) :: rest =>
      (jsonString name ++ ": " ++ value.toIndentedJson level) :: indentedMembers level rest

end

end DocHarvest.Value
