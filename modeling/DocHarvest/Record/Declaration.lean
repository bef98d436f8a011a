import DocHarvest.Record.Draft

/-!
# Records of declarations

Classes, functions, variables and assignments at the level of a module. A class or function without
a name of its own is named after what binds it, and failing that after the file.
-/

namespace DocHarvest.Draft

/-- The name that an assignment or a declaration gives the value that it binds. -/
def nameFromParent? (parent : Option Node) : Option String :=
  match parent with
  | none => none
  | some node =>
      match node.shape with
      | .assignment (some left) _ _ =>
          match left.shape with
          | .identifier name => some name
          | .member _ (some key) _ => key.identifier?
          | _ => none
      | .variables _ (first :: _) => first.bound?.bind Node.identifier?
      | _ => none

/-- Whether a node is a class as a value. -/
def isClassExpression (node : Node) : Bool :=
  match node.shape with
  | .classLike .expression .. => true
  | _ => false

/-- The name of a class. -/
def classNameOf (scope : Scope) (links : Links) (node : Node) : String :=
  let bound := if isClassExpression node then nameFromParent? (links.parentOf node.id) else none
  (bound.or node.className?).getD (ModulePath.nameOf scope.filePath)

/-- The full name of a class that is declared in the module or imported into it. -/
def classLongname? (draft : Draft) (name : String) : Option String :=
  let program := draft.scope.program
  if name.isEmpty then none
  else if (program.findClass? name true).isSome then some (draft.scope.filePath ++ "~" ++ name)
  else
    ((program.findImport? name).filter (!·.isEmpty)).map fun specifier =>
      ModulePath.resolveImport draft.scope.filePath specifier ++ "~" ++ name

/-- The full name that a name in the module refers to, as far as it is known. -/
def referredLongname (draft : Draft) (name : String) : String :=
  match (draft.scope.program.findImport? name).filter (!·.isEmpty) with
  | some specifier => ModulePath.resolveImport draft.scope.filePath specifier ++ "~" ++ name
  | none => (draft.classLongname? name).getD name

/-- The type text in front of a tag value. -/
def typeText (value : String) : String :=
  let parts := Param.split { type := true, name := false, description := false } value
  (parts.type.filter (!·.isEmpty)).getD "*"

/-- The full name of a base of a class: a name, or a chain that starts with a name. -/
def baseLongname? (draft : Draft) (base : Node) : Option String :=
  match base.shape with
  | .identifier name => some (draft.referredLongname name)
  | .member .. =>
      let chain := Node.chainText (some base)
      let root := String.ofList (chain.toList.takeWhile (· != '.'))
      let file := Text.mapLines (·.takeWhile (· != '~')) (draft.referredLongname root).toList
      some (String.ofList file ++ "~" ++ chain)
  | _ => none

/-- Whether a character is a letter without accent. -/
def isPlainLetter (character : Char) : Bool :=
  character.isAlpha

/-- Whether a text starts like a name: with a letter, or with `$` or `_` and a letter. -/
def startsLikeName (text : String) : Bool :=
  match text.toList with
  | first :: second :: _ =>
      isPlainLetter first || ((first == '$' || first == '_') && isPlainLetter second)
  | [first] => isPlainLetter first
  | [] => false

/-- The bases of a class; those of a call are its callee and its arguments. -/
def baseLongnames (draft : Draft) (superClass : Node) : List String :=
  match superClass.shape with
  | .call callee arguments =>
      ((callee.toList ++ arguments).filterMap draft.baseLongname?).filter startsLikeName
  | _ => (draft.baseLongname? superClass).toList

/-- The bases of a class and, where they are the parts of a call, its code. -/
def basesOf (draft : Draft) : Option (List String) × Option String :=
  match draft.values? "@extends" with
  | some values => (some (values.map typeText), none)
  | none =>
      match draft.node.shape with
      | .classLike _ _ _ (some superClass) _ =>
          let found := draft.baseLongnames superClass
          let code := match superClass.shape with
            | .call .. => some superClass.code
            | _ => none
          (if found.isEmpty then none else some found, code)
      | _ => (none, none)

/-- The record of a class. -/
def moduleClass (draft : Draft) : Except Fault Doc := do
  let name := classNameOf draft.scope draft.links draft.node
  let (bases, basesCode) := draft.basesOf
  let decorators ← Decorator.all draft.node
  return { draft.moduleDoc .moduleClass (some name) with
    bases
    basesCode
    interfaces := (draft.values? "@implements").map (·.map typeText)
    isInterface := draft.has "@interface"
    decorators
    isAbstract := draft.has "@abstract" }

/-- Whether a node is a function as a value. -/
def isFunctionValue (node : Node) : Bool :=
  match node.shape with
  | .function .expression .. | .arrow .. => true
  | _ => false

/-- The part that names a declaration. -/
def idNode? (node : Node) : Option Node :=
  match node.shape with
  | .function _ id _ _ _ _ => id
  | .classLike _ _ id _ _ => id
  | .declarator id _ => id
  | _ => none

/-- The name that a function has of its own. -/
def ownFunctionName? (node : Node) : Option String :=
  match idNode? node with
  | none => none
  | some id =>
      match id.shape with
      | .member .. => some ("[" ++ id.code ++ "]")
      | .identifier name => some name
      | _ => none

/-- The name of a function. -/
def functionName (draft : Draft) : String :=
  let bound :=
    if isFunctionValue draft.node then nameFromParent? (draft.links.parentOf draft.node.id)
    else none
  (bound.or (ownFunctionName? draft.node)).getD (ModulePath.nameOf draft.scope.filePath)

/-- The record of a function. -/
def moduleFunction (draft : Draft) : Except Fault Doc := do
  let params ← draft.paramsOr (Param.guess (paramNodes draft.node))
  let result ← draft.resultOr (guessedResult draft.node)
  let throws ← draft.paramsOf "@throws" false
  let emits ← draft.paramsOf "@emits" false
  let listens ← draft.paramsOf "@listens" false
  return { draft.moduleDoc .moduleFunction (some draft.functionName) with
    async := isAsync draft.node
    generator := isGenerator draft.node
    params := some params
    result
    throws
    emits
    listens }

/-- The name that a declarator binds; of a pattern only the first name counts. -/
def bindingName (bound : Option Node) : Except Fault (Option String) :=
  match bound with
  | none => .error (.unknownBinding none)
  | some node =>
      match node.shape with
      | .identifier name => .ok (some name)
      | .objectPattern (first :: _) => .ok ((Param.keyOf? first).bind Node.identifier?)
      | .arrayPattern elements => .ok (elements.findSome? Node.identifier?)
      | _ => .error (.unknownBinding (some node.typeName))

/-- The type of a variable by its initial value; an instance has the type of its class. -/
def variableType (draft : Draft) (initial : Option Node) : Except Fault Param :=
  match initial.bind Node.constructed? with
  | some callee => .ok (.ofType ((draft.classLongname? (Node.calleeName callee)).getD "*"))
  | none => Param.guessType initial

/-- The record of a variable. -/
def moduleVariable (draft : Draft) : Except Fault Doc := do
  match draft.node.firstDeclarator? with
  | none => throw (.notVariable draft.node.typeName)
  | some declarator =>
      let name ← bindingName declarator.bound?
      let type ← draft.typeOr (some <$> draft.variableType declarator.initial?)
      return { draft.moduleDoc .moduleVariable name with type }

/-- The two sides of an assignment. -/
def sides? (node : Node) : Option (Option Node × Option Node) :=
  match node.shape with
  | .assignment left right _ => some (left, right)
  | _ => none

/-- The type of the right side of an assignment. -/
def assignedType (node : Node) : Except Fault (Option Param) :=
  match sides? node with
  | some (_, right) => some <$> Param.guessType right
  | none => .ok none

/-- The record of an assignment. -/
def moduleAssignment (draft : Draft) : Except Fault Doc := do
  let sides := sides? draft.node
  let name := withoutThis (Node.chainText (sides.bind (·.1)))
  let type ← draft.typeOr (assignedType draft.node)
  return { draft.moduleDoc .moduleAssignment (some name) with type }

end DocHarvest.Draft
