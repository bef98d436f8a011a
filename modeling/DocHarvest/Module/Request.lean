import DocHarvest.Module.Generate
import DocHarvest.Tree.Program
import DocHarvest.Workspace

/-!
# Requests

A request to document a module is checked before the work starts: the program has to be one, the
path has to be a text, and the policy has to have a name.
-/

namespace DocHarvest

/-- A syntax tree with the source that it covers, and whether it holds errors. -/
structure Parsed where
  tree : Tree
  hasError : Bool

namespace Module

/-- A program with the first identity that none of its nodes has. -/
structure Program where
  root : Node
  nextNode : NodeId

/-- What is said about a source with errors. -/
def parseWarnings (parsed : Parsed) : List Message :=
  if parsed.hasError then
    [⟨.warning, "JavaScript source contains syntax errors; " ++
      "affected constructs are kept as ERROR nodes"⟩]
  else []

/-- The program of a source and its tree. -/
def readProgram (source : Source) (parsed : Parsed) : Except Fault Program := do
  let (root, nextNode) ← parsed.tree.program source
  return ⟨root, nextNode⟩

/-- A request to document a module. -/
structure Request where
  program : Program
  filePath : Value
  root : String
  policyName : String := "throw"
  code : Option String := none
  filter : Option Doc.Filter := none
  isTest : Bool := false

/-- The place of the module of a request. -/
def Request.place (request : Request) (directory : Path) (filePath : String) :
    Except Fault ModulePath :=
  ModulePath.of directory request.root filePath

/-- The scope that a request asks for. -/
def Request.scope (request : Request) (workspace : Workspace) (directory : Path) :
    Except Fault Scope := do
  let root := request.program.root
  if !root.isProgram then
    throw (.notProgram root.shape.constructName)
  match request.filePath with
  | .text filePath =>
      match Policy.ofName? request.policyName with
      | none => throw (.unknownPolicy request.policyName)
      | some policy =>
          let place ← request.place directory filePath
          return {
            program := root
            filePath := place.filePath
            policy
            code := request.code
            fileText := workspace.text? place.absolute
            filter := request.filter }
  | other => throw (.pathNotText other.kindName)

/-- The work that a request asks for, in its scope. -/
def Request.run (request : Request) (scope : Scope) : Run Int :=
  if request.isTest then generateTests scope else generate scope

/-- The state in which the work on a program starts, given the store. -/
def Program.start (program : Program) (store : Store) : Progress :=
  { store, nextNode := program.nextNode }

end Module

end DocHarvest
