import DocHarvest.Text.Basic

/-!
# Parts of a tag value

A tag value reads `{type} name - description`. The type stands in braces and ends at the first
closing brace that whitespace or the end follows; without it the type is `*`. A name in square
brackets runs to the bracket that closes the first one, any other name to the next whitespace.
What remains, without one dash and the whitespace around it, is the description.
-/

namespace DocHarvest.Param

/-- Which parts of a tag value are looked for. -/
structure Wanted where
  type : Bool := true
  name : Bool := true
  description : Bool := true
deriving DecidableEq, Repr

/-- The parts of a tag value. -/
structure Parts where
  type : Option String
  name : Option String
  description : Option String
deriving DecidableEq, Repr

/-- Whether a text is empty or starts with whitespace. -/
def endsWord : List Char → Bool
  | [] => true
  | character :: _ => Text.isBlank character

/-- Reads a type from behind its opening brace; it holds no `@`. -/
def bracedType? : List Char → Option (List Char × List Char)
  | [] => none
  | character :: rest =>
      if character == '\x7d' && endsWord rest then some ([], rest.dropWhile Text.isBlank)
      else if character == '@' then none
      else (bracedType? rest).map fun (type, left) => (character :: type, left)

/-- Splits the type off the front of a text. -/
def splitType (text : List Char) : List Char × List Char :=
  match text with
  | '\x7b' :: rest => (bracedType? rest).getD (['*'], text)
  | _ => (['*'], text)

/-- Takes characters up to the bracket that brings the depth back to zero. -/
def bracketed : Nat → List Char → List Char × List Char
  | _, [] => ([], [])
  | depth, character :: rest =>
      let deeper :=
        if character == '[' then depth + 1
        else if character == ']' then depth - 1
        else depth
      if deeper == 0 then ([character], rest)
      else
        let (name, left) := bracketed deeper rest
        (character :: name, left)

/-- Splits the name off the front of a text, if there is one. -/
def splitName (text : List Char) : Option (List Char) × List Char :=
  match text with
  | '[' :: _ =>
      let (name, left) := bracketed 0 text
      (some name, Text.trim left)
  | _ =>
      let name := text.takeWhile (!Text.isBlank ·)
      if name.isEmpty then (none, text)
      else (some name, (text.dropWhile (!Text.isBlank ·)).dropWhile Text.isBlank)

/-- The description in what type and name leave over. -/
def describe (text : List Char) : List Char :=
  (Text.dropFirst '-' text).dropWhile Text.isBlank

/-- The wanted parts of a tag value. -/
def split (wanted : Wanted) (value : String) : Parts :=
  let text := Text.trim value.toList
  let (type, afterType) :=
    if wanted.type then
      let (type, left) := splitType text
      (some (String.ofList type), left)
    else (none, text)
  let (name, afterName) :=
    if wanted.name then
      let (name, left) := splitName afterType
      (name.map String.ofList, left)
    else (none, afterType)
  let description :=
    if wanted.description then some (String.ofList (describe afterName)) else none
  ⟨type, name, description⟩

end DocHarvest.Param
