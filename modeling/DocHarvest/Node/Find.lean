import DocHarvest.Node.Code

/-!
# Declarations of a program

Look-ups among the statements of a program: classes, variables that hold an instance, and the
modules that names are imported from.
-/

namespace DocHarvest.Node

/-- The statement that an export wraps, or the statement itself. -/
def unwrapped? (statement : Node) : Option Node :=
  if statement.shape.isExport then statement.exported? else some statement

/-- The name of a class, if it is an identifier. -/
def className? (node : Node) : Option String :=
  match node.shape with
  | .classLike _ _ id _ _ => id.bind identifier?
  | _ => none

/-- The name of a class declaration. -/
def declaredClass? (node : Node) : Option String :=
  match node.shape with
  | .classLike .declaration .. => node.className?
  | _ => none

/-- The class declaration of a name among the statements, also inside exports if asked for. -/
def findClass? (program : Node) (name : String) (includeExports : Bool) : Option Node :=
  if name.isEmpty then none
  else
    program.body.findSome? fun statement =>
      let candidate := if includeExports then statement.unwrapped? else some statement
      candidate.filter fun node => node.declaredClass? == some name

/-- The first declarator of a variable declaration. -/
def firstDeclarator? (node : Node) : Option Node :=
  node.declarators?.bind List.head?

/-- The variable that a declaration gives an instance, by the first declarator. -/
def instanceVariable? (statement : Node) : Option String :=
  match statement.firstDeclarator? with
  | none => none
  | some declarator =>
      if (declarator.initial?.bind constructed?).isSome then declarator.bound?.bind identifier?
      else none

/-- The statement that gives an instance to the variable of a name. -/
def findInstance? (program : Node) (name : String) : Option Node :=
  if name.isEmpty then none
  else program.body.find? fun statement => statement.instanceVariable? == some name

/-- The name that an import specifier binds. -/
def importedAs? (specifier : Node) : Option String :=
  match specifier.shape with
  | .importSpecifier binding _ => binding.bind identifier?
  | _ => none

/-- The module that an import takes a name from. -/
def importSource? (name : String) (statement : Node) : Option String :=
  match statement.shape with
  | .importDeclaration specifiers (some source) =>
      if specifiers.any fun specifier => specifier.importedAs? == some name then
        source.literal?.map Value.display
      else none
  | _ => none

/-- The module that a program imports a name from. -/
def findImport? (program : Node) (name : String) : Option String :=
  program.body.findSome? (importSource? name)

/--
The declaration `let variable = new className()`, with the place and the leading comments of
another node. It consists of five nodes with identities from `first` on.
-/
def instanceDeclaration (first : NodeId) (variableName className : String) (source : Node) : Node :=
  let identifier (id : NodeId) (name : String) : Node := .mk { id } (.identifier name)
  let init : Node :=
    .mk { id := first + 3 } (.construct (some (identifier (first + 4) className)) [])
  let declarator : Node :=
    .mk { id := first + 1 } (.declarator (some (identifier (first + 2) variableName)) (some init))
  .mk { id := first, span := source.span, leading := source.leading }
    (.variables "let" [declarator])

/-- The number of nodes in an `instanceDeclaration`. -/
def instanceDeclarationSize : Nat := 5

end DocHarvest.Node
