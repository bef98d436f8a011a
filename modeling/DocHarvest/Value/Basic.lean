import DocHarvest.Number.Literal
import DocHarvest.Number.Shortest
import DocHarvest.Text.Basic
import DocHarvest.Text.Quoted

/-!
# Dynamic values

The values that literals and defaults of parameters have: null, booleans, integers of any size,
double-precision numbers, texts, lists and objects. An object lists its members in the order in
which their names first appeared.
-/

namespace DocHarvest

/-- A dynamic value. -/
inductive Value
  | null
  | boolean (truth : Bool)
  | integer (number : Int)
  | real (number : Binary64)
  | text (content : String)
  | list (items : List Value)
  | object (members : List (String × Value))
deriving Inhabited

namespace Value

/-- Numbers are shown positionally from `0.0001` up to sixteen digits before the point. -/
def numberFormat : Binary64.NumberFormat :=
  ⟨-4, 16, 2, "inf", "nan"⟩

/-- The name of a value's type; null counts as an object. -/
def typeName : Value → String
  | .boolean _ => "boolean"
  | .integer _ | .real _ => "number"
  | .text _ => "string"
  | .null | .list _ | .object _ => "object"

/-- The name of the kind of a value. -/
def kindName : Value → String
  | .null => "NoneType"
  | .boolean _ => "bool"
  | .integer _ => "int"
  | .real _ => "float"
  | .text _ => "str"
  | .list _ => "list"
  | .object _ => "dict"

/-- Whether a value is neither null, false, zero nor empty. -/
def isTruthy : Value → Bool
  | .null => false
  | .boolean truth => truth
  | .integer number => number != 0
  | .real number => !number.isZero
  | .text content => !content.isEmpty
  | .list items => !items.isEmpty
  | .object members => !members.isEmpty

/-- Whether a value is null. -/
def isNull : Value → Bool
  | .null => true
  | _ => false

/-- The decimal text of an integer. -/
def integerText (number : Int) : String :=
  String.ofList ((if number < 0 then ['-'] else []) ++ Nat.toDigits 10 number.natAbs)

/-- Whether an integer has no more digits than are written out. -/
def isShort (number : Int) : Bool :=
  number.natAbs < Nat.pow 10 Numeral.maxDecimalDigits

mutual

/-- Whether every integer in a value is short enough to be written out. -/
def isWritable : Value → Bool
  | .integer number => isShort number
  | .list items => areWritable items
  | .object members => membersAreWritable members
  | .null | .boolean _ | .real _ | .text _ => true

/-- Whether every integer in a list of values is short enough to be written out. -/
def areWritable : List Value → Bool
  | [] => true
  | item :: rest => item.isWritable && areWritable rest

/-- Whether every integer in the members of an object is short enough to be written out. -/
def membersAreWritable : List (String × Value) → Bool
  | [] => true
  | (_, value) :: rest => value.isWritable && membersAreWritable rest

end

mutual

/-- A value as it is shown inside a list or an object, with texts in quotes. -/
def shown : Value → String
  | .null => "None"
  | .boolean truth => if truth then "True" else "False"
  | .integer number => integerText number
  | .real number => number.render numberFormat
  | .text content => Text.Quoted.quoted content
  | .list items => "[" ++ Text.joinStrings ", " (shownItems items) ++ "]"
  | .object members => "\x7b" ++ Text.joinStrings ", " (shownMembers members) ++ "\x7d"

/-- The items of a list as they are shown. -/
def shownItems : List Value → List String
  | [] => []
  | item :: rest => item.shown :: shownItems rest

/-- The members of an object as they are shown. -/
def shownMembers : List (String × Value) → List String
  | [] => []
  | (name, value) :: rest =>
      (Text.Quoted.quoted name ++ ": " ++ value.shown) :: shownMembers rest

end

/-- A value as a property name or as code: texts stand for themselves. -/
def display : Value → String
  | .text content => content
  | value => value.shown

/-- The text of a value as a default: booleans and null by their names, integral numbers in full. -/
def defaultText : Value → String
  | .boolean truth => if truth then "true" else "false"
  | .null => "null"
  | .real number =>
      match number.toInt? with
      | some whole => integerText whole
      | none => number.render numberFormat
  | value => value.display

/-- Sets a member of an object; a new name goes to the end and a known one keeps its place. -/
def setMember {α : Type} (name : String) (value : α) : List (String × α) → List (String × α)
  | [] => [(name, value)]
  | (known, old) :: rest =>
      if known == name then (known, value) :: rest
      else (known, old) :: setMember name value rest

/-- The number that a value is, where booleans count as zero and one. -/
def asNumeral? : Value → Option (Int ⊕ Binary64)
  | .boolean truth => some (.inl (if truth then 1 else 0))
  | .integer number => some (.inl number)
  | .real number =>
      match number.toInt? with
      | some whole => some (.inl whole)
      | none => some (.inr number)
  | _ => none

mutual

/-- Equality of values, where numbers are compared by value. -/
def same : Value → Value → Bool
  | .null, .null => true
  | .text left, .text right => left == right
  | .list left, .list right => sameItems left right
  | left, right =>
      match left.asNumeral?, right.asNumeral? with
      | some (.inl leftNumber), some (.inl rightNumber) => leftNumber == rightNumber
      | some (.inr leftNumber), some (.inr rightNumber) =>
          leftNumber == rightNumber && leftNumber != .nan
      | _, _ => false

/-- Equality of lists of values, item by item. -/
def sameItems : List Value → List Value → Bool
  | [], [] => true
  | left :: lefts, right :: rights => left.same right && sameItems lefts rights
  | _, _ => false

end

end Value

end DocHarvest
