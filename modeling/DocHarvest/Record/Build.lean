import DocHarvest.Record.File
import DocHarvest.Record.Member
import DocHarvest.Record.TestBlock
import DocHarvest.Record.Virtual

/-!
# Building records

The record of every category, and the step that builds one. Making a record of a class notes the
name of the class, so that its members find it; parameters that cannot be guessed are reported.
-/

namespace DocHarvest

namespace Draft

/-- The record of a category. There are no records of modules other than those of their files. -/
def build (draft : Draft) : Category → Except Fault Doc
  | .file => draft.file .file
  | .memory => .ok draft.memory
  | .testFile => draft.testFile
  | .module => .error .invalidRecord
  | .moduleClass => draft.moduleClass
  | .moduleFunction => draft.moduleFunction
  | .moduleVariable => draft.moduleVariable
  | .moduleAssignment => draft.moduleAssignment
  | .classMethod => draft.classMethod
  | .classMember => draft.classMember
  | .classProperty => draft.classProperty
  | .virtualTypedef => draft.typedef
  | .virtualExternal => .ok draft.external
  | .test => draft.testBlock

/-- Whether the parameters of a node are guessed for a record. -/
def guessesParams (category : Category) (node : Node) (tags : List Tag) : Bool :=
  let untagged := (Tag.last? ["@param"] tags).isNone
  match category with
  | .moduleFunction => untagged
  | .classMethod => untagged && !(methodKindOf node).isAccessor && (methodName node).isOk
  | _ => false

end Draft

namespace Run

/-- Notes the name of a class whose record is begun. -/
def noteName (scope : Scope) (category : Category) (node : Node) : StateM Progress Unit := do
  if category == .moduleClass then
    setName node (Draft.classNameOf scope (← get).links node)

/-- Reports the parameters of a node that cannot be guessed. -/
def reportGuesses (category : Category) (node : Node) (tags : List Tag) : StateM Progress Unit :=
  if Draft.guessesParams category node tags then
    sayAll .warning (Param.guessWarnings (Draft.paramNodes node))
  else pure ()

/-- Builds the record of a category for a node, under an id. -/
def build (scope : Scope) (id : Int) (category : Category) (node : Node) (tags : List Tag) :
    Run Doc := do
  noteName scope category node
  reportGuesses category node tags
  let draft : Draft := ⟨scope, (← get).links, id, node, tags⟩
  draft.build category

end Run

end DocHarvest
