import DocHarvest.Fault
import DocHarvest.Param.Basic
import DocHarvest.Param.Split
import DocHarvest.Value.Reader

/-!
# Parameters from tag values

A type text is cut into its alternatives, a name in brackets is optional and may carry a default
after `=`. An empty alternative is a fault.
-/

namespace DocHarvest.Param

/-- Whether a leading mark says that null is allowed or not. -/
def nullability : List Char → Option Bool
  | '?' :: _ => some true
  | '!' :: _ => some false
  | _ => none

/-- A type text without its leading mark. -/
def dropNullability (type : List Char) : List Char :=
  if (nullability type).isSome then type.drop 1 else type

/-- Whether some line holds `<`, later `|` and later `>`: a bar inside angle brackets. -/
def hasBarInAngles (type : List Char) : Bool :=
  (Text.lines type).any fun line =>
    let afterAngle := (line.dropWhile (· != '<')).drop 1
    ((afterAngle.dropWhile (· != '|')).drop 1).contains '>'

/-- The opening of a repeated union such as `...(a|b)`. -/
def spreadUnionMark : List Char := "...(".toList

/-- What follows the opening of a repeated union that is closed on the same line. -/
def spreadUnion? (type : List Char) : Option (List Char) :=
  match spreadUnionMark.isPrefixOf? type with
  | some rest => if (rest.takeWhile (· != '\n')).contains ')' then some rest else none
  | none => none

/-- Drops a closing parenthesis that ends a text or stands before its final newline. -/
def dropClosing (text : List Char) : List Char :=
  match text.reverse with
  | ')' :: before => before.reverse
  | '\n' :: ')' :: before => ('\n' :: before).reverse
  | _ => text

/-- The alternatives of a type text. -/
def alternatives (type : List Char) : List (List Char) :=
  match type with
  | '\x7b' :: _ => [type]
  | '(' :: rest => Text.splitChar '|' (Text.dropLast ')' rest)
  | _ =>
      if !type.contains '|' || hasBarInAngles type then [type]
      else
        match spreadUnion? type with
        | some rest => Text.splitChar '|' (dropClosing ("...".toList ++ rest))
        | none => Text.splitChar '|' type

/-- What a type text says: its alternatives, whether null is allowed, and whether it repeats. -/
def withType (type : Option String) (param : Param) : Param :=
  match type with
  | none => { param with types := [""] }
  | some text =>
      if text.isEmpty then { param with types := [""] }
      else
        let bare := dropNullability text.toList
        { param with
          nullable := nullability text.toList
          types := (alternatives bare).map String.ofList
          spread := some ("...".toList.isPrefixOf bare) }

/-- The value that the text of a default denotes, or the text itself. -/
def valueOfDefault (text : String) : Value :=
  (Value.ofJson? text).getD (.text text)

/-- What a name says: whether it is optional, and its default if it has exactly one `=`. -/
def withName (name : Option String) (param : Param) : Param :=
  match name with
  | none => param
  | some text =>
      if text.isEmpty then param
      else
        let isOptional := ['['].isPrefixOf text.toList
        let bare :=
          if isOptional then Text.dropLast ']' (Text.dropFirst '[' text.toList) else text.toList
        let pieces := Text.splitChar '=' bare
        let param := { param with
          optional := some isOptional
          name := some (String.ofList (Text.trim (pieces.headD []))) }
        match pieces with
        | [_, default] =>
            let default := String.ofList default
            { param with defaultText := some default, defaultValue := valueOfDefault default }
        | _ => param

/-- The parameter that a type text, a name and a description make. -/
def ofParts (type name description : Option String) : Except Fault Param :=
  let typed := withType type {}
  if typed.types.any String.isEmpty then .error (.emptyType name description)
  else .ok { withName name typed with description }

/-- The parameter that the wanted parts of a tag value make. -/
def parse (wanted : Wanted) (value : String) : Except Fault Param :=
  let parts := split wanted value
  ofParts parts.type parts.name parts.description

end DocHarvest.Param
