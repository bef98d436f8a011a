import DocHarvest.Module.Comments

/-!
# Exports

An export that wraps a declaration is unwrapped: the declaration is documented with the comments of
both. An export that refers to other declarations is deferred: once all records of the module are
stored, it is planned as a list of mutations, which are then applied. Planning only reads the store.
-/

namespace DocHarvest

/-- What an export changes in the record of the thing that it exports. -/
structure ExportChange where
  importStyle : Option String
  type : Option Param := none

/-- A change of the store. -/
inductive Mutation
  | update (id : Int) (change : ExportChange)
  | append (id : Int) (text : String)
  | insert (doc : Doc)

/-- Marks a record as exported. -/
def ExportChange.apply (change : ExportChange) (doc : Doc) : Doc :=
  { doc with
    exported := true
    ignored := false
    importStyle := change.importStyle
    type := change.type.or doc.type }

/-- Adds a text to the description of a record. -/
def Doc.describeMore (text : String) (doc : Doc) : Doc :=
  match doc.description.filter (!·.isEmpty) with
  | some description => { doc with description := some (description ++ "\n" ++ text) }
  | none => { doc with description := some text }

/-- The id of a record that has not been given one. -/
def unassignedId : Int := -1

namespace Export

/-! ## The first pass -/

/-- The leading comments of the first decorator of a node. -/
def decoratorComments (node : Node) : List Comment :=
  match node.shape.decorators with
  | first :: _ => first.leading
  | [] => []

/-- Documents the declaration that an export wraps, with the comments of both. -/
def unwrap (scope : Scope) (exportNode : Node) (isLast : Bool) : Run Unit := do
  match exportNode.exported? with
  | none => return
  | some declaration =>
      let leading :=
        declaration.leading ++ exportNode.leading ++ decoratorComments declaration
      let trailing := declaration.trailing ++ exportNode.trailing
      Run.markVisited declaration
      Run.setParent declaration (some exportNode)
      Run.documentComments scope (some declaration) (some exportNode) leading
      if !trailing.isEmpty && isLast then
        Run.documentComments scope none (some exportNode) trailing

/-- Whether a declarator makes an instance of a class that is declared without export. -/
def makesLocalInstance (program declarator : Node) : Bool :=
  match declarator.initial?.bind Node.constructed? with
  | some callee => (program.findClass? (Node.calleeName callee) false).isSome
  | none => false

/-- Whether a node is an identifier or a `new` expression. -/
def isReference (node : Node) : Bool :=
  node.identifier?.isSome || node.constructed?.isSome

/-- Whether a node is an export that can be resolved only after the walk. -/
def isDeferred (program node : Node) : Bool :=
  match node.shape with
  | .exportDefault declaration => declaration.any isReference
  | .exportNamed declaration specifiers _ =>
      !specifiers.isEmpty ||
        ((declaration.bind Node.declarators?).getD []).any (makesLocalInstance program)
  | _ => false

/-! ## The second pass -/

/-- The categories in which an exported name is looked up. -/
def lookupCategories : List Category := [.moduleClass, .moduleFunction, .moduleVariable]

/-- The record of a category and a name in the module. -/
def find? (scope : Scope) (category : Category) (name : String) : Run (Option Doc) :=
  return (← get).store.lookup? category name scope.filePath

/-- A name in braces, as a named import writes it. -/
def braced (name : String) : String :=
  "\x7b" ++ name ++ "\x7d"

/-- A class name with its first letter in lower case. -/
def lowerFirst (name : String) : String :=
  match name.toList with
  | [] => ""
  | first :: rest => String.ofList (Text.lowerChar first ++ rest)

/-- Marks the records of a name in all categories in which exported names are looked up. -/
def planName (scope : Scope) (name : String) (importStyle : String) : Run (List Mutation) := do
  let found ← lookupCategories.mapM fun category => find? scope category name
  return found.filterMap fun doc? => doc?.map fun doc => .update doc.id ⟨some importStyle, none⟩

/-- Whether an export is a default export. -/
def isDefault (exportNode : Node) : Bool :=
  match exportNode.shape with
  | .exportDefault _ => true
  | _ => false

/--
Changes the record of the variable that holds an exported instance, or makes one. The record is
made as if the module declared the variable with the comments of the export.
-/
def planCompanion (scope : Scope) (exportNode : Node) (variableName className : String) :
    Run (List Mutation) := do
  let importStyle := if isDefault exportNode then variableName else braced variableName
  let type := Param.ofType (scope.filePath ++ "~" ++ className)
  let change : ExportChange := ⟨some importStyle, some type⟩
  let first ← Run.freshNodes Node.instanceDeclarationSize
  let declaration := Node.instanceDeclaration first variableName className exportNode
  Run.setParent declaration (some scope.program)
  let tags := Comment.docTags declaration.leading
  let companion ← Run.build scope unassignedId .moduleVariable declaration tags
  match ← find? scope .moduleVariable variableName with
  | none => return [.insert { change.apply companion with pseudoExport := true }]
  | some doc =>
      let described := (companion.description.filter (!·.isEmpty)).toList
      return described.map (.append doc.id) ++ [.update doc.id change]

/-- Exports an instance: marks its class and its variable, if the class has a record. -/
def planInstance (scope : Scope) (exportNode : Node) (className variableName : String) :
    Run (List Mutation) := do
  match ← find? scope .moduleClass className with
  | none => return []
  | some doc =>
      let companion ← planCompanion scope exportNode variableName className
      return .update doc.id ⟨none, none⟩ :: companion

/-- The class of the instance that the first declarator of a declaration makes. -/
def instanceClass (declaration : Node) : String :=
  let callee := (declaration.firstDeclarator?.bind Node.initial?).bind Node.constructed?
  Node.calleeName callee.join

/-- The plan of a default export. -/
def planDefault (scope : Scope) (exportNode : Node) (declaration : Option Node) :
    Run (List Mutation) := do
  match declaration.map Node.shape with
  | some (.construct callee _) =>
      let className := Node.calleeName callee
      planInstance scope exportNode className (lowerFirst className)
  | some (.identifier name) =>
      let instances ← match scope.program.findInstance? name with
        | some declared => planInstance scope exportNode (instanceClass declared) name
        | none => pure []
      return instances ++ (← planName scope name name)
  | shape =>
      Run.say .warning
        ("Unknown export declaration type. type = \"" ++
          Text.orNone (shape.map Shape.typeName) ++ "\"")
      return []

/-- The plan of a declarator of a named export. -/
def planDeclarator (scope : Scope) (exportNode declarator : Node) : Run (List Mutation) := do
  match declarator.initial?.bind Node.constructed? with
  | none => return []
  | some callee =>
      let className := Node.calleeName callee
      let variableName := (declarator.bound?.bind Node.identifier?).getD ""
      let classDoc ← find? scope .moduleClass className
      let marked : List Mutation := classDoc.toList.map fun doc => .update doc.id ⟨none, none⟩
      if className.isEmpty || variableName.isEmpty then
        return marked
      return marked ++ (← planCompanion scope exportNode variableName className)

/-- The names of an export specifier: in the module, and outside. -/
def specifierNames? (specifier : Node) : Option (String × String) :=
  match specifier.shape with
  | .exportSpecifier (some source) exported =>
      let name := source.identifier?.getD ""
      some (name, (exported.bind Node.identifier?).getD name)
  | _ => none

/-- The plan of an export specifier. -/
def planSpecifier (scope : Scope) (specifier : Node) : Run (List Mutation) :=
  match specifierNames? specifier with
  | none => return []
  | some (name, outside) => planName scope name (braced outside)

/-- The plan of a named export; what another module exports is left to that module. -/
def planNamed (scope : Scope) (exportNode : Node) (declaration : Option Node)
    (specifiers : List Node) (origin : Option Node) : Run (List Mutation) := do
  let declarators := (declaration.bind Node.declarators?).getD []
  let instances ← declarators.mapM (planDeclarator scope exportNode)
  if origin.isSome then
    return instances.flatten
  let named ← specifiers.mapM (planSpecifier scope)
  return instances.flatten ++ named.flatten

/-- The plan of a deferred export; a comment can take it out. -/
def plan (scope : Scope) (exportNode : Node) : Run (List Mutation) := do
  if Tag.hasName (Comment.docTags exportNode.leading) "@ignore" then
    return []
  match exportNode.shape with
  | .exportDefault declaration => planDefault scope exportNode declaration
  | .exportNamed declaration specifiers origin =>
      planNamed scope exportNode declaration specifiers origin
  | _ => return []

/-- Applies a mutation; a new record gets its id here. -/
def applyOne (scope : Scope) : Mutation → Run Unit
  | .update id change =>
      modify fun progress => { progress with store := progress.store.modify id change.apply }
  | .append id text =>
      modify fun progress =>
        { progress with store := progress.store.modify id (Doc.describeMore text) }
  | .insert doc => do
      let id ← Run.drawId
      let _ ← Run.insert scope { doc with id }

/-- Applies mutations in order. -/
def applyAll (scope : Scope) (mutations : List Mutation) : Run Unit :=
  mutations.forM (applyOne scope)

end Export

end DocHarvest
