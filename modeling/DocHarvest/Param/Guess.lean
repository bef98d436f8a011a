import DocHarvest.Fault
import DocHarvest.Node.Walk
import DocHarvest.Param.Basic
import DocHarvest.Value.Printer

/-!
# Guessed parameters

What the shape of the code says about a parameter, a result or a value where no tag does. Patterns
get made-up names, defaults give types, and the result of a function has the type of its last
`return` that does not belong to a function inside. Integers are shown in full, so one with too many
digits cannot be guessed from: `guess`, `guessType` and `guessResult` are the checked forms.
-/

namespace DocHarvest.Param

/-- The value of a part that is a literal; any other part has the value null. -/
def literalValue (node : Option Node) : Value :=
  (node.bind Node.literal?).getD .null

/-- The key of a property or method. -/
def keyOf? (node : Node) : Option Node :=
  match node.shape with
  | .objectProperty key _ _ => key
  | .objectMethod key _ _ => key
  | .method _ key _ _ _ _ _ _ _ => key
  | .property _ key _ _ _ => key
  | _ => none

/-- The name that a key writes: an identifier, or the text of a literal. -/
def keyName? (key : Option Node) : Option String :=
  match key with
  | none => none
  | some node =>
      match node.shape with
      | .identifier name => some name
      | .literal value _ => some value.display
      | _ => none

/-- Whether the name that a key writes can be written out. -/
def keyIsWritable (key : Option Node) : Bool :=
  (literalValue key).isWritable

/-- The name that a property of a pattern binds, if it is not empty. -/
def boundKey? (property : Node) : Option String :=
  (keyName? (keyOf? property)).filter (!·.isEmpty)

/-- An object type of its entries. -/
def objectType (entries : List String) : String :=
  "\x7b" ++ Text.joinStrings ", " entries ++ "\x7d"

/-- A name in double quotes with the type that belongs to it. -/
def quotedEntry (name type : String) : String :=
  "\"" ++ name ++ "\": " ++ type

/-- The type of a list, by the value of its first element. -/
def listType (elements : List Node) : String :=
  match elements with
  | [] => "*[]"
  | first :: _ => (literalValue (some first)).typeName ++ "[]"

/-- The entries of an object literal that are properties with a name. -/
def namedProperties (properties : List Node) : List (String × Option Node) :=
  properties.filterMap fun property =>
    match property.shape with
    | .objectProperty key value _ => (keyName? key).map (·, value)
    | _ => none

/-- The type of a property's value in the default of a parameter. -/
def defaultType (value : Option Node) : String :=
  match value.bind Node.literal? with
  | some literal => literal.typeName
  | none => "*"

/-- The names that an object pattern on the left of a default binds. -/
def patternNames (left : Option Node) : List String :=
  match left.map Node.shape with
  | some (.objectPattern properties) => properties.filterMap boundKey?
  | _ => []

/-- What the default value of a parameter says, given the pattern that it belongs to. -/
def withDefault (left right : Option Node) (param : Param) : Param :=
  match right.map Node.shape with
  | some (.literal value _) =>
      { param with
        types := if value.isNull then ["*"] else [value.typeName]
        defaultValue := value
        defaultText := some value.defaultText }
  | some (.array elements) =>
      let values := Value.list (elements.map fun element => literalValue (some element))
      { param with
        types := [listType elements]
        defaultValue := values
        defaultText := some values.toJson }
  | some (.object properties) =>
      let named := namedProperties properties
      let bound := (patternNames left).foldl (fun types name => Value.setMember name "*" types) []
      let types := named.foldl
        (fun types entry => Value.setMember entry.1 (defaultType entry.2) types) bound
      let values := Value.object (named.foldl
        (fun values entry => Value.setMember entry.1 (literalValue entry.2) values) [])
      { param with
        types := [objectType (types.map fun entry => quotedEntry entry.1 entry.2)]
        defaultValue := values
        defaultText := some values.toJson }
  | some (.identifier name) =>
      { param with types := ["*"], defaultValue := .text name, defaultText := some name }
  | _ => { param with types := ["*"] }

/-- A made-up name: later parameters carry their position. -/
def madeUpName (stem : String) (index : Nat) : String :=
  if index == 0 then stem else stem ++ Value.integerText index

/-- The name of a parameter with a default. -/
def defaultedName? (index : Nat) (left : Option Node) : Option String :=
  match left.map Node.shape with
  | some (.identifier name) => some name
  | some (.objectPattern _) => some (madeUpName "objectPattern" index)
  | some (.arrayPattern _) => some (madeUpName "arrayPattern" index)
  | _ => none

/-- A property of an object pattern: its entry in the type, its name and its value. -/
def patternEntry? (property : Node) : Option (String × String × Value) :=
  let keyed := (boundKey? property).map fun name => (quotedEntry name "*", name, Value.null)
  match property.shape with
  | .rest (some argument) =>
      match argument.identifier? with
      | some name => some ("..." ++ name ++ ": Object", name, .object [])
      | none => keyed
  | _ => keyed

/-- The parameter that an object pattern makes. -/
def ofObjectPattern (index : Nat) (properties : List Node) : Param :=
  let entries := properties.filterMap patternEntry?
  let values := Value.object
    (entries.foldl (fun values entry => Value.setMember entry.2.1 entry.2.2 values) [])
  { name := some (madeUpName "objectPattern" index)
    types := [objectType (entries.map fun entry => entry.1)]
    defaultValue := values
    defaultText := some values.toJson }

/-- The literal default of an element of an array pattern. -/
def elementDefault? (element : Node) : Option Value :=
  match element.shape with
  | .assignmentPattern _ (some right) => right.literal?
  | _ => none

/-- How an element of an array pattern is shown. -/
def elementText? (element : Node) : Option String :=
  match element.shape with
  | .identifier _ => some "null"
  | .assignmentPattern .. =>
      match elementDefault? element with
      | some value => some value.toJson
      | none => some "*"
  | _ => none

/-- The parameter that an array pattern makes. -/
def ofArrayPattern (index : Nat) (elements : List Node) : Param :=
  let known := (elements.filterMap elementDefault?).filter fun value => !value.isNull
  let texts := elements.filterMap elementText?
  { name := some (madeUpName "arrayPattern" index)
    types := [(match known.head? with | some value => value.typeName | none => "*") ++ "[]"]
    defaultValue := .list (texts.map .text)
    defaultText := some ("[" ++ Text.joinStrings ", " texts ++ "]") }

/-- The parameter that a node at a position of a parameter list makes. -/
def ofNode (index : Nat) (node : Node) : Param :=
  match node.shape with
  | .identifier name => { name := some name, types := ["*"] }
  | .assignmentPattern left right =>
      withDefault left right { name := defaultedName? index left, optional := some true }
  | .rest argument =>
      { name := some ((argument.bind Node.identifier?).getD "rest")
        types := ["...*"]
        spread := some true }
  | .objectPattern properties => ofObjectPattern index properties
  | .arrayPattern elements => ofArrayPattern index elements
  | _ => {}

/-- Whether a node can be a parameter. -/
def isParamNode (node : Node) : Bool :=
  match node.shape with
  | .identifier _ | .assignmentPattern .. | .rest _ | .objectPattern _ | .arrayPattern _ => true
  | _ => false

/-- The parameters that a parameter list makes. -/
def guessAll (nodes : List Node) : List Param :=
  nodes.mapIdx ofNode

/-- The keys of an object pattern on the left of a default. -/
def patternKeys (left : Option Node) : List (Option Node) :=
  match left.map Node.shape with
  | some (.objectPattern properties) => properties.map keyOf?
  | _ => []

/-- The key of a node that is a property of an object literal. -/
def propertyKey? (property : Node) : Option Node :=
  match property.shape with
  | .objectProperty key _ _ => key
  | _ => none

/-- Whether all that the default value of a parameter shows can be written out. -/
def defaultIsWritable (left right : Option Node) : Bool :=
  let keys : List (Option Node) :=
    match right.map Node.shape with
    | some (.object properties) => patternKeys left ++ properties.map propertyKey?
    | _ => []
  keys.all keyIsWritable && (withDefault left right {}).defaultValue.isWritable

/-- Whether all that the parameter of a node shows can be written out. -/
def isWritableParam (node : Node) : Bool :=
  match node.shape with
  | .assignmentPattern left right => defaultIsWritable left right
  | .objectPattern properties => properties.all fun property => keyIsWritable (keyOf? property)
  | .arrayPattern elements =>
      (elements.filterMap elementDefault?).all Value.isWritable
  | _ => true

/-- The parameters that a parameter list makes, if all that they show can be written out. -/
def guess (nodes : List Node) : Except Fault (List Param) :=
  if nodes.all isWritableParam then .ok (guessAll nodes) else .error .integerTooLong

/--
What is to be said about the nodes of a parameter list that cannot be parameters, up to the first
one that shows an integer with too many digits.
-/
def guessWarnings (nodes : List Node) : List String :=
  ((nodes.takeWhile isWritableParam).filter (!isParamNode ·)).map fun node =>
    "unknown param type: " ++ node.typeName

/-- An entry of the type of an object literal. -/
def typeEntry? (property : Node) : Option (String × String) :=
  match property.shape with
  | .objectProperty key value _ =>
      let literal := literalValue value
      some ("\"" ++ Text.orNone (keyName? key) ++ "\"",
        if literal.isTruthy then literal.typeName else "*")
  | .objectMethod key _ _ => some ("\"" ++ Text.orNone (keyName? key) ++ "\"", "function")
  | .spread argument => some ("..." ++ (argument.bind Node.identifier?).getD "*", "Object")
  | _ => none

/-- The type of the value of an expression. -/
def typeOf (expression : Option Node) : String :=
  match expression.map Node.shape with
  | some .template => "string"
  | some (.literal _ .null) => "*"
  | some (.literal _ .regex) => "RegExp"
  | some (.literal value _) => value.typeName
  | some (.array elements) => listType elements
  | some (.object properties) =>
      let entries := (properties.filterMap typeEntry?).foldl
        (fun types entry => Value.setMember entry.1 entry.2 types) []
      objectType (entries.map fun entry => entry.1 ++ ": " ++ entry.2)
  | _ => "*"

/-- What an expression says about the thing that it gives a value. -/
def ofExpression (expression : Option Node) : Param :=
  ofType (typeOf expression)

/-- Whether all that the type of an expression shows can be written out. -/
def typeIsWritable (expression : Option Node) : Bool :=
  match expression.map Node.shape with
  | some (.object properties) =>
      properties.all fun property =>
        match property.shape with
        | .objectProperty key _ _ => keyIsWritable key
        | .objectMethod key _ _ => keyIsWritable key
        | _ => true
  | _ => true

/-- What an expression says about a thing, if all that it shows can be written out. -/
def guessType (expression : Option Node) : Except Fault Param :=
  if typeIsWritable expression then .ok (ofExpression expression) else .error .integerTooLong

/-- Notes the argument of a `return` and keeps out of the functions inside a body. -/
def visitReturn (body : NodeId) (node : Node) : StateM (List Node) Node.Descent := do
  if node.id != body && node.shape.isFunctionLike then
    return .skip
  match node.shape with
  | .returnStatement (some argument) => modify (argument :: ·)
  | _ => pure ()
  return .enter

/-- The arguments of the `return`s of a body outside the functions in it, the last one first. -/
def returns (body : Node) : List Node :=
  ((body.walk fun node _ => visitReturn body.id node).run []).2

/-- The argument of the last `return` of a body that does not belong to a function inside. -/
def lastReturn? (body : Node) : Option Node :=
  (returns body).head?

/-- The result that the body of a function makes. -/
def ofBody? (body : Option Node) : Option Param :=
  (body.bind lastReturn?).map fun argument => ofExpression (some argument)

/-- The result that a body makes, if all that its `return`s show can be written out. -/
def guessResult (body : Option Node) : Except Fault (Option Param) :=
  let arguments := (body.map returns).getD []
  if arguments.all fun argument => typeIsWritable (some argument) then .ok (ofBody? body)
  else .error .integerTooLong

end DocHarvest.Param
