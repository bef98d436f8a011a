import DocHarvest.Module.Export

/-!
# Documenting a module

The record of the module comes first. The first pass walks the program and stores a record for
every node that is classified; deferred exports are put aside. The second pass resolves them against
the records.
-/

namespace DocHarvest

namespace Module

/-- Notes a node that could not be documented. -/
def noteInvalid (filePath : String) (node : Option Node) (fault : Fault) :
    StateM Progress Unit := do
  let entry : InvalidCode :=
    { filePath
      nodeType := (node.map Node.typeName).getD ""
      line := node.bind Node.line?
      fault }
  modify fun progress => { progress with invalid := progress.invalid ++ [entry] }
  Run.say .warning
    ("Invalid code in " ++ filePath ++ " (line " ++
      Text.orNone (entry.line.map Value.integerText) ++ ", " ++ entry.nodeType ++ "): " ++
      fault.message)

/-- Runs a step about a node; by the policy a fault is passed on, or noted and answered for. -/
def guarded {α : Type} (scope : Scope) (node : Node) (fallback : α) (step : Run α) : Run α :=
  tryCatch step fun fault =>
    match scope.policy with
    | .stop => throw fault
    | .log => do
        noteInvalid scope.filePath (some node) fault
        return fallback

/-- Whether a node is the last one in the list that its parent holds as its body. -/
def isLastIn (node : Node) (parent : Option Node) : Bool :=
  match (parent.bind fun parent => parent.shape.statements?).bind List.getLast? with
  | some last => last.id == node.id
  | none => false

/-- Documents a node that is no export, with its own comments or those of its first decorator. -/
def documentNode (scope : Scope) (node : Node) (parent : Option Node) (isLast : Bool) :
    Run Unit := do
  let leading := if node.leading.isEmpty then Export.decoratorComments node else node.leading
  Run.documentComments scope (some node) parent leading
  if !node.trailing.isEmpty && isLast then
    Run.documentComments scope none parent node.trailing

/-- Documents a node that the walk has reached, unless it has been visited. -/
def push (scope : Scope) (node : Node) (parent : Option Node) : Run Unit := do
  if node.id == scope.program.id then
    return
  if ← Run.isVisited node then
    return
  let isLast := isLastIn node parent
  Run.markVisited node
  Run.setParent node parent
  if node.shape.isExport then Export.unwrap scope node isLast
  else documentNode scope node parent isLast

/-- Visits a node on the walk: deferred exports are put aside with all that is below them. -/
def enter (scope : Scope) (node : Node) (parent : Option Node) : Run Node.Descent :=
  guarded scope node .enter do
    if Export.isDeferred scope.program node then
      modify fun progress => { progress with pending := progress.pending ++ [node] }
      return .skip
    push scope node parent
    return .enter

/-- The walk of the first pass. -/
def firstPass (scope : Scope) : Run Unit :=
  scope.program.walk (enter scope)

/-- Resolves a deferred export. -/
def resolve (scope : Scope) (exportNode : Node) : Run Unit :=
  guarded scope exportNode () do
    Export.applyAll scope (← Export.plan scope exportNode)

/-- The second pass: resolves the deferred exports in order and takes them off the list. -/
def secondPass (scope : Scope) : Run Unit := do
  (← get).pending.forM (resolve scope)
  modify fun progress => { progress with pending := [] }

/-- Stores the record of the module. -/
def storeModule (scope : Scope) (category : Category) (id : Int) : Run Unit := do
  let doc ← Run.build scope id category scope.program []
  let _ ← Run.insert scope doc

/-- Documents the comments of a module that holds nothing else. -/
def documentInner (scope : Scope) : Run Unit := do
  if scope.program.body.isEmpty && !scope.program.innerComments.isEmpty then
    guarded scope scope.program () do
      Run.documentComments scope none (some scope.program) scope.program.innerComments

/-- Documents a module and returns the id of its record. -/
def generate (scope : Scope) : Run Int := do
  let id ← Run.drawId
  let scope := { scope with moduleId := some id }
  storeModule scope (if scope.code.isSome then .memory else .file) id
  documentInner scope
  firstPass scope
  secondPass scope
  Run.say .info
    ("Generated docs for " ++ scope.filePath ++ " (module id " ++ Value.integerText id ++ ")")
  return id

/-! ## Test files -/

/-- The call of a test block that a statement consists of. -/
def blockCall? (node : Node) : Option Node :=
  match node.shape with
  | .expressionStatement (some expression) =>
      let function := Draft.blockFunction expression
      if Draft.groupFunctions.contains function || Draft.caseFunctions.contains function then
        some expression
      else none
  | _ => none

/-- Gives a test block a name of its own: its function and a number. -/
def nameBlock (call : Node) : StateM Progress Unit := do
  let number ← modifyGet fun progress =>
    (progress.blocks, { progress with blocks := progress.blocks + 1 })
  Run.setName call (Draft.blockFunction call ++ Value.integerText number)

/-- Documents a node of a test file that the walk has reached, unless it has been visited. -/
def pushTest (scope : Scope) (node : Node) (parent : Option Node) : Run Unit := do
  if ← Run.isVisited node then
    return
  Run.markVisited node
  Run.setParent node parent
  match blockCall? node with
  | none => return
  | some call =>
      Run.markVisited call
      Run.setParent call (some node)
      nameBlock call
      let id ← Run.drawId
      let doc ← Run.build scope id .test call (Comment.docTags node.leading)
      let _ ← Run.insert scope doc

/-- Visits a node of a test file on the walk. -/
def enterTest (scope : Scope) (node : Node) (parent : Option Node) : Run Node.Descent :=
  guarded scope node .enter do
    pushTest scope node parent
    return .enter

/-- Documents a test file and returns the id of its record. -/
def generateTests (scope : Scope) : Run Int := do
  let id ← Run.drawId
  let scope := { scope with moduleId := some id }
  storeModule scope .testFile id
  scope.program.walk (enterTest scope)
  Run.say .info
    ("Generated test docs for " ++ scope.filePath ++ " (module id " ++
      Value.integerText id ++ ")")
  return id

end Module

end DocHarvest
