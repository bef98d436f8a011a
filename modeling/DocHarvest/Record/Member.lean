import DocHarvest.Record.Declaration

/-!
# Records of class members

Methods, properties and assignments to members of `this`. They are members of the nearest class
around them. Getters and setters are documented as members.
-/

namespace DocHarvest.Draft

/-- What a class member is a member of. -/
def classMemberof (draft : Draft) : String :=
  match draft.links.findUp? draft.node.id Shape.isClass with
  | none => draft.scope.filePath
  | some classNode =>
      let name := (draft.links.names[classNode.id]?).or classNode.className?
      draft.scope.filePath ++ "~" ++ Text.orNone name

/-- The name that a key gives a member; a computed key is shown in brackets. -/
def memberName (key : Option Node) (computed : Bool) : Except Fault (Option String) :=
  if computed then .ok (some ("[" ++ Node.codeOr key ++ "]"))
  else if Param.keyIsWritable key then .ok (Param.keyName? key)
  else .error .integerTooLong

/-- The kind of a method. -/
def methodKindOf (node : Node) : MethodKind :=
  match node.shape with
  | .method _ _ _ _ kind _ _ _ _ => kind
  | _ => .method

/-- Whether a class member is static. -/
def isStatic (node : Node) : Bool :=
  match node.shape with
  | .method _ _ _ _ _ static _ _ _ => static
  | .property _ _ _ static _ => static
  | _ => false

/-- The name of a method. -/
def methodName (node : Node) : Except Fault (Option String) :=
  match node.shape with
  | .method _ key _ _ _ _ computed _ _ => memberName key computed
  | _ => .ok none

/-- The parameters of a method, which are guessed unless it is an accessor. -/
def methodParams (draft : Draft) : Except Fault (Option (List Param)) :=
  if (methodKindOf draft.node).isAccessor then draft.paramsOf "@param" true
  else some <$> draft.paramsOr (Param.guess (paramNodes draft.node))

/-- The guessed result of a method; constructors and accessors have none. -/
def methodResult (node : Node) : Except Fault (Option Param) :=
  match methodKindOf node with
  | .constructor | .getter | .setter => .ok none
  | .method | .other _ => guessedResult node

/-- The guessed type of an accessor. -/
def accessorType (node : Node) : Except Fault (Option Param) :=
  match methodKindOf node with
  | .getter => Param.guessResult (bodyNode? node)
  | .setter => .ok (some Param.anything)
  | .constructor | .method | .other _ => .ok none

/-- The record of a method. -/
def classMethod (draft : Draft) : Except Fault Doc := do
  let kind := methodKindOf draft.node
  let name ← methodName draft.node
  let params ← draft.methodParams
  let result ← draft.resultOr (methodResult draft.node)
  let type ← draft.typeOr (accessorType draft.node)
  let throws ← draft.paramsOf "@throws" false
  let emits ← draft.paramsOf "@emits" false
  let listens ← draft.paramsOf "@listens" false
  let decorators ← Decorator.all draft.node
  let category := if kind.isAccessor then Category.classMember else .classMethod
  let doc := draft.doc category name draft.classMemberof (isStatic draft.node)
  return { doc with
    accessor := kind.isAccessor
    qualifier := some kind.name
    async := isAsync draft.node
    generator := isGenerator draft.node
    params
    result
    type
    throws
    emits
    listens
    decorators
    isAbstract := draft.has "@abstract"
    isOverride := draft.has "@override" }

/-- The name of an assigned member. -/
def assignedName (left : Option Node) : String :=
  match left.map Node.shape with
  | some (.member _ key true) => "[" ++ Node.codeOr key ++ "]"
  | _ => withoutThis (Node.chainText left)

/-- Whether an assigned member is static: it is if its method is, and outside of methods. -/
def isAssignedStatic (draft : Draft) : Bool :=
  match draft.links.findUp? draft.node.id fun
    | .method .. => true
    | _ => false with
  | some method => isStatic method
  | none => true

/-- The record of an assignment to a member of `this`. -/
def classMember (draft : Draft) : Except Fault Doc := do
  let sides := sides? draft.node
  let type ← draft.typeOr (assignedType draft.node)
  let name := assignedName (sides.bind (·.1))
  return { draft.doc .classMember (some name) draft.classMemberof draft.isAssignedStatic with type }

/-- The name and the guessed type of a class property. -/
def propertyParts (node : Node) : Except Fault (Option String) × Except Fault (Option Param) :=
  match node.shape with
  | .property _ key value _ computed => (memberName key computed, some <$> Param.guessType value)
  | _ => (.ok none, .ok none)

/-- The record of a class property. -/
def classProperty (draft : Draft) : Except Fault Doc := do
  let (name, guess) := propertyParts draft.node
  let name ← name
  let type ← draft.typeOr guess
  let decorators ← Decorator.all draft.node
  return { draft.doc .classProperty name draft.classMemberof (isStatic draft.node) with
    type
    decorators }

end DocHarvest.Draft
